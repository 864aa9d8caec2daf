import ComponentLikeness.Number.Binary64

/-!
# TOML values

Values of TOML documents, and the rules by which keys and headers put values
into tables. How a table came about decides whether it may still grow.
-/

namespace ComponentLikeness.Toml

open Number

/-- Integers lie below this bound, and not below its negation. -/
def integerBound : Nat := 1 <<< 63

/-- How a table came about. -/
inductive TableOrigin where
  /-- By its own header, or as the document itself. -/
  | header
  /-- Only by the header of a table further down. -/
  | implied
  /-- By a dotted key. -/
  | dotted
  /-- Written between braces. -/
  | inlined
deriving DecidableEq, Repr, Inhabited

/-- A value of a document. -/
inductive Value where
  | string (text : String)
  | integer (n : Int)
  | float (x : Binary64)
  | boolean (b : Bool)
  /-- A date, a time or both; which one is of no account. -/
  | dateTime
  | array (items : List Value)
  | table (origin : TableOrigin) (entries : List (String × Value))
  /-- Tables that share one header, in order. -/
  | tables (items : List (List (String × Value)))
deriving Inhabited

/-- The keys of a table with their values, in the order of the document. -/
abbrev Entries := List (String × Value)

/-! ## Putting values into tables -/

/-- Change the value of a key, or add the key behind all others. -/
def changeEntry (key : String) (change : Option Value → Option Value) :
    Entries → Option Entries
  | [] => (change none).map fun v => [(key, v)]
  | (k, v) :: rest =>
    if k = key then (change (some v)).map fun v => (k, v) :: rest
    else (changeEntry key change rest).map ((k, v) :: ·)

/-- Change the last member of a list, if there is one. -/
def changeLast {α : Type} (change : α → Option α) : List α → Option (List α)
  | [] => none
  | [x] => (change x).map fun y => [y]
  | x :: rest => (changeLast change rest).map (x :: ·)

/-- A value for a key that has none yet. -/
def ifNew (value : Value) : Option Value → Option Value
  | none => some value
  | some _ => none

/-- Put a value under a dotted key. The tables on the way must have come about
by dotted keys, or by headers of tables further down; the one that takes the
value must not be of the latter kind. -/
def putDotted (key : String) (value : Value) : List String → Entries → Option Entries
  | [], entries => changeEntry key (ifNew value) entries
  | step :: path, entries =>
    changeEntry step (fun found =>
      match found with
      | none => (putDotted key value path []).map (.table .dotted)
      | some (.table .dotted inner) => (putDotted key value path inner).map (.table .dotted)
      | some (.table .implied inner) =>
        if path.isEmpty then none else (putDotted key value path inner).map (.table .implied)
      | some (.tables items) =>
        if path.isEmpty then none else (changeLast (putDotted key value path) items).map .tables
      | some _ => none) entries

/-- Change the entries of the table at a path of headers; of tables that share
a header the last one is meant. Tables that are missing on the way are
implied. -/
def changeAt (change : Entries → Option Entries) : List String → Entries → Option Entries
  | [], entries => change entries
  | step :: path, entries =>
    changeEntry step (fun found =>
      match found with
      | none => (changeAt change path []).map (.table .implied)
      | some (.table .inlined _) => none
      | some (.table origin inner) => (changeAt change path inner).map (.table origin)
      | some (.tables items) => (changeLast (changeAt change path) items).map .tables
      | some _ => none) entries

/-- Open the table of a header, which must not have had a header before. -/
def openTable (parents : List String) (key : String) : Entries → Option Entries :=
  changeAt (changeEntry key fun found =>
    match found with
    | none => some (.table .header [])
    | some (.table .implied inner) => some (.table .header inner)
    | some _ => none) parents

/-- Open another table of those that share a header. -/
def openNext (parents : List String) (key : String) : Entries → Option Entries :=
  changeAt (changeEntry key fun found =>
    match found with
    | none => some (.tables [[]])
    | some (.tables items) => some (.tables (items ++ [[]]))
    | some _ => none) parents

end ComponentLikeness.Toml
