import ComponentLikeness.Files.Folder
import ComponentLikeness.Settings.Layers
import ComponentLikeness.Text.Fields

/-!
# File trees

Files, directories and symbolic links below one root. A path is a list of steps
from the root; links are followed wherever they stand on it.
-/

namespace ComponentLikeness.Files

open Text

/-- A file, a directory or a link. -/
inductive FileTree where
  | file (bytes : ByteArray)
  | folder (entries : List (String × FileTree))
  | link (target : String)
deriving Inhabited

namespace FileTree

/-- A directory with nothing in it. -/
def empty : FileTree := folder []

/-- What stands at a path, no link being followed. -/
def at? : List String → FileTree → Option FileTree
  | [], t => some t
  | name :: path, folder entries => (entries.lookup name).bind (at? path)
  | _, _ => none

/-- The steps of a path that is written with slashes. -/
def stepsOf (path : String) : List String := fields '/' path

/-- How many links are followed on one path. -/
def maxLinks : Nat := 40

/-- The place that some steps lead to from a place: neither holds a link on its
way. Only a directory has steps below it. -/
def follow (root : FileTree) : Nat → List String → List String → Option (List String)
  | _, place, [] => some place
  | links, place, step :: steps =>
    match root.at? place with
    | some (folder entries) =>
      if step = "" || step = "." then follow root links place steps
      else if step = ".." then follow root links place.dropLast steps
      else
        match entries.lookup step with
        | none => none
        | some (link target) =>
          match links with
          | 0 => none
          | links + 1 =>
            if target.toList.head? = some '/' then none
            else follow root links place (stepsOf target ++ steps)
        | some _ => follow root links (place ++ [step]) steps
    | _ => none
termination_by links _ steps => (links, steps.length)

/-- The place that a path leads to. -/
def resolve (root : FileTree) (path : String) : Option (List String) :=
  root.follow maxLinks [] (stepsOf path)

/-- What a name in a directory leads to. -/
def entryState (root : FileTree) (place : List String) (name : String) : EntryState :=
  match root.follow maxLinks place [name] with
  | none => .broken "the link leads nowhere"
  | some target =>
    if target = place then .broken "the link leads back to the directory"
    else
      match root.at? target with
      | some (file bytes) => .file (.ofBytes bytes)
      | some (folder _) => .folder
      | _ => .broken "the link leads nowhere"

/-- The directory that a path leads to, if there is one. -/
def folderAt? (root : FileTree) (path : String) : Option Folder :=
  match root.resolve path with
  | none => none
  | some place =>
    match root.at? place with
    | some (folder entries) =>
      some { entries := entries.map fun entry => (entry.1, root.entryState place entry.1) }
    | _ => none

/-- What reading the file at a path gives. -/
def read (root : FileTree) (path : String) : FileText :=
  match (root.resolve path).bind fun place => root.at? place with
  | none => .absent
  | some (file bytes) =>
    match (FileState.ofBytes bytes).text with
    | .ok text => .readable text
    | .error _ => .unreadable
  | some _ => .unreadable

/-! ## Changes -/

/-- Change what a name in a directory stands for. -/
def changeName (name : String) (change : Option FileTree → Option FileTree) :
    List (String × FileTree) → List (String × FileTree)
  | [] => ((change none).map fun t => (name, t)).toList
  | (n, t) :: rest =>
    if n = name then ((change (some t)).map fun t => (n, t)).toList ++ rest
    else (n, t) :: changeName name change rest

/-- Change what stands at a path; directories missing on the way are made. -/
def changeAt (change : Option FileTree → Option FileTree) : List String → FileTree → FileTree
  | [], t => (change (some t)).getD empty
  | [name], folder entries => folder (changeName name change entries)
  | name :: path, folder entries =>
    folder (changeName name (fun found => some (changeAt change path (found.getD empty))) entries)
  | _, t => t

/-- Follow the links of a place as far as it exists. -/
def placeFor (root : FileTree) (steps : List String) : List String :=
  steps.foldl (fun place step =>
    if step = "" || step = "." then place
    else if step = ".." then place.dropLast
    else
      match root.follow maxLinks place [step] with
      | some place => place
      | none => place ++ [step]) []

/-- Change what a path leads to, the last step of which is not followed. -/
def change (root : FileTree) (change : Option FileTree → Option FileTree) (path : String) :
    FileTree :=
  let steps := stepsOf path
  match steps.getLast? with
  | none => root
  | some name => changeAt change (root.placeFor steps.dropLast ++ [name]) root

/-- Put something at a path. A directory that is there already is kept. -/
def put (root : FileTree) (path : String) (what : FileTree) : FileTree :=
  root.change (fun found =>
    match found, what with
    | some (folder entries), folder _ => some (folder entries)
    | _, _ => some what) path

/-- Remove what stands at a path. -/
def remove (root : FileTree) (path : String) : FileTree := root.change (fun _ => none) path

end FileTree

end ComponentLikeness.Files
