import ComponentLikeness.Grammar.Reading

/-!
# Repairing a reading

What happens at a token that no reading can use: everything that may be reduced
is reduced, a missing token is supplied if that lets the reading go on, and
otherwise trees are left out, either those since a state that could use the
token, or the token itself.
-/

namespace ComponentLikeness.Grammar

namespace Machine

/-- The reductions among the actions of a state on the terminals, each once by
nonterminal and length, and whether some terminal can be shifted. -/
def possibleReductions (s : Nat) : List Nat → List Reduction → Bool →
    MachineM (List Reduction × Bool)
  | [], found, canShift => return (found, canShift)
  | t :: ts, found, canShift => do
    let actions ← actionsOn s t
    let (found, canShift) := actions.foldl (fun (found, canShift) action =>
      match action with
      | .shift _ => (found, true)
      | .reduce r =>
        let known := found.any fun (f : Reduction) =>
          f.nonterminal == r.nonterminal && f.steps.size == r.steps.size
        (if r.steps.isEmpty || known then found else found ++ [r], canShift)
      | _ => (found, canShift)) (found, canShift)
    possibleReductions s ts found canShift

/-- Reduce readings from `version` on as far as they go, on one terminal or on
any. Answers whether some reading can then shift. -/
def reduceAllLoop (job : Job) (start initial : Nat) (lookahead : Option Nat) :
    Nat → Nat → Nat → Bool → MachineM Bool
  | 0, _, _, canShift => return canShift
  | fuel + 1, turn, version, canShift => do
    let m ← get
    let count := m.heads.size
    if version ≥ count then return canShift
    let earlier := (List.range version).filter (· ≥ initial)
    if ← mergeBelow job count version earlier then
      reduceAllLoop job start initial lookahead fuel (turn + 1) version canShift
    else
      let s := (m.top version).state
      let terminals := match lookahead with
        | some t => [t]
        | none => (List.range job.grammar.endOfText).filter fun t =>
            (m.automaton.state s).expected.contains t
      let (reductions, canShiftHere) ← possibleReductions s terminals [] false
      let mut last : Option Nat := none
      for r in reductions do
        last := ← reduce job version r
      if canShiftHere then
        let next := if version == start then count else version + 1
        reduceAllLoop job start initial lookahead fuel (turn + 1) next true
      else
        match last with
        | some v =>
          if turn < maxVersions then
            renumber v version
            reduceAllLoop job start initial lookahead fuel (turn + 1) version canShift
          else
            if lookahead.isSome then removeVersion version
            let next := if version == start then count else version + 1
            reduceAllLoop job start initial lookahead fuel (turn + 1) next canShift
        | none =>
          if lookahead.isSome then removeVersion version
          let next := if version == start then count else version + 1
          reduceAllLoop job start initial lookahead fuel (turn + 1) next canShift

/-- Reduce a reading as far as it goes, on one terminal or on any. -/
def reduceAll (job : Job) (version : Nat) (lookahead : Option Nat) : MachineM Bool := do
  let initial := (← get).heads.size
  reduceAllLoop job version initial lookahead 1000 0 version false

/-- Whether the first action of the state on the terminal reduces. -/
def reducesOn (s t : Nat) : MachineM Bool := do
  match ← actionsOn s t with
  | .reduce _ :: _ => return true
  | _ => return false

/-- The state behind a terminal that may be supplied in a state. -/
def stateBehind (s t : Nat) : MachineM (Option Nat) := do
  match (← actionsOn s t).getLast? with
  | some (.shift n) => return some n
  | some (.shiftRepetition n) => return some n
  | _ => return none

/-- Supply the first of the terminals after which the lookahead lets the
reading go on, in a copy of the reading. At the end of the text it is enough
that some token would let it go on. -/
def supplyMissing (job : Job) (version lookahead : Nat) : List Nat → MachineM Bool
  | [] => return false
  | t :: ts => do
    let node := (← get).top version
    match ← stateBehind node.state t with
    | none => supplyMissing job version lookahead ts
    | some behind =>
      let helps ← if behind == node.state then pure false else reducesOn behind lookahead
      if helps then
        let copy ← copyVersion version
        push job copy (some (.ofMissing node.place t)) behind
        let goal := if lookahead == job.grammar.endOfText then none else some lookahead
        if ← reduceAll job copy goal then return true
        else supplyMissing job version lookahead ts
      else supplyMissing job version lookahead ts

/-- Whether some other reading is already better than one of the cost. -/
def betterExists (m : Machine) (version cost : Nat) : Bool :=
  (match m.finished with
    | some tree => tree.summary.cost ≤ cost
    | none => false) ||
  let place := (m.top version).place
  let own := { m.standing version with cost, inError := false }
  (List.range m.heads.size).any fun i =>
    if i == version || !m.isActive i || (m.top i).place < place then false
    else
      match own.judge (m.standing i) with
      | .takeRight => true
      | .preferRight => m.canMerge i version
      | _ => false

/-- Go back `depth` trees to a state, wrapping what was read since in an
error. -/
def fallBack (job : Job) (version depth goal : Nat) : MachineM Bool := do
  let slices ← popCount version depth
  let mut previous : Option Nat := none
  for slice in slices do
    if previous == some slice.version then continue
    let node := (← get).top slice.version
    if node.state != goal then
      halt slice.version
    else
      let earlier ← popError slice.version
      let trees := match earlier with
        | error :: _ => error.children ++ slice.trees
        | [] => slice.trees
      let (trees, extras) := splitTrailing trees
      if !trees.isEmpty then
        let error := Subtree.ofChildren job.grammar job.source .error node.place trees true
        push job slice.version (some error) goal
      for tree in extras do push job slice.version (some tree) goal
      previous := some slice.version
  return previous.isSome

/-- Try the recorded states, nearest first, for one that can use the
lookahead. -/
def tryFallbacks (job : Job) (version versions : Nat) (lookahead : Subtree) (cost : Nat) :
    List SummaryEntry → MachineM Bool
  | [] => return false
  | entry :: rest => do
    let m ← get
    let place := (m.top version).place
    let skip := entry.state == Automaton.errorState || entry.place == place ||
      (List.range versions).any fun j =>
        (m.top j).state == entry.state && (m.top j).place == place
    if skip then tryFallbacks job version versions lookahead cost rest
    else
      let depth := if m.nodesSinceError version > 0 then entry.depth + 1 else entry.depth
      let newCost := cost + entry.depth * Subtree.skippedTreeCost +
        (job.source.byteAt place - job.source.byteAt entry.place) * Subtree.skippedByteCost +
        (job.source.lineAt place - job.source.lineAt entry.place) * Subtree.skippedLineCost
      if m.betterExists version newCost then return false
      else
        let usable := match terminal? lookahead with
          | some t => m.automaton.accepts entry.state t
          | none => false
        let fellBack ← if usable then fallBack job version depth entry.state else pure false
        if fellBack then return true
        else tryFallbacks job version versions lookahead cost rest

/-- Drop the readings from `i` on that do not go on. -/
def dropInactive : Nat → Nat → MachineM Unit
  | 0, _ => return ()
  | fuel + 1, i => do
    let m ← get
    if i < m.heads.size then
      if m.isActive i then dropInactive fuel (i + 1)
      else
        removeVersion i
        dropInactive fuel i

/-- Whether the tree is the end of the text. -/
def isEnd (job : Job) (tree : Subtree) : Bool :=
  match tree.label with
  | .token t => t == job.grammar.endOfText
  | _ => false

/-- Leave the lookahead out of a reading that is in error. -/
def skipToken (job : Job) (version : Nat) (lookahead : Subtree) : MachineM Unit := do
  let isExtra := match lookahead.label with
    | .token t => job.grammar.extras.contains t
    | _ => false
  let lookahead := if isExtra then lookahead.withExtra true else lookahead
  let run := fun trees => Subtree.ofChildren job.grammar job.source .errorRun 0 trees false
  let m ← get
  if m.nodesSinceError version > 0 then
    let slices ← popCount version 1
    match slices[0]? with
    | none => push job version (some (run [lookahead])) Automaton.errorState
    | some slice =>
      for _ in [slice.version + 1 : (← get).heads.size] do
        removeVersion (slice.version + 1)
      renumber slice.version version
      push job version (some (run (slice.trees ++ [run [lookahead]]))) Automaton.errorState
  else
    push job version (some (run [lookahead])) Automaton.errorState

/-- Continue a reading that is in error with the next token. -/
def recover (job : Job) (version : Nat) (lookahead : Subtree) : MachineM Unit := do
  let m ← get
  let versions := m.heads.size
  let cost := m.errorCost version
  let fellBack ← match (m.head version).fallbacks with
    | some entries =>
      if lookahead.isError then pure false
      else tryFallbacks job version versions lookahead cost entries.toList
    | none => pure false
  dropInactive ((← get).heads.size + 1) versions
  if isEnd job lookahead then
    let place := (m.top version).place
    let error := Subtree.ofChildren job.grammar job.source .error place [] false
    push job version (some error) Automaton.startState
    accept job version lookahead
  else if fellBack && (← get).heads.size > maxVersions then
    halt version
  else
    let s := lookahead.summary
    let newCost := cost + Subtree.skippedTreeCost +
      (job.source.byteAt s.stop - job.source.byteAt s.origin) * Subtree.skippedByteCost +
      (job.source.lineAt s.stop - job.source.lineAt s.origin) * Subtree.skippedLineCost
    if (← get).betterExists version newCost then halt version
    else skipToken job version lookahead

/-- How far below an error the states are recorded. -/
def maxFallbackDepth : Nat := 16

/-- Mark the error on each reading from `version` on that came out of it. -/
def markErrors (job : Job) (version previous : Nat) (lookahead : Option Nat) :
    Nat → Nat → Nat → Bool → MachineM Unit
  | 0, _, _, _ => return ()
  | fuel + 1, count, v, supplied => do
    if v < count then
      let supplied ← match supplied, lookahead with
        | false, some t =>
          supplyMissing job v t (List.range job.grammar.endOfText)
        | done, _ => pure done
      push job v none Automaton.errorState
      markErrors job version previous lookahead fuel count
        (if v == version then previous else v + 1) supplied

/-- Begin the repair of a reading that met a token without action. -/
def handleError (job : Job) (version : Nat) (lookahead : Subtree) : MachineM Unit := do
  let previous := (← get).heads.size
  let _ ← reduceAll job version none
  let count := (← get).heads.size
  markErrors job version previous (terminal? lookahead) (count + 1) count version false
  for _ in [previous : count] do
    let _ ← merge job version previous
  recordFallbacks version maxFallbackDepth
  recover job version lookahead

end Machine

end ComponentLikeness.Grammar
