import ComponentLikeness.Grammar.Repair

/-!
# The parser

All readings advance token by token. After each round they are ranked: the
clearly worse ones are dropped, equal ones merged, and a reading that met an
error is repaired once no other reading goes on. The cheapest whole tree is
the answer.
-/

namespace ComponentLikeness.Grammar

namespace Machine

/-- Carry out the actions of a state one by one. Answers whether the reading
has moved past the lookahead, whether a reduction was tried, and the reading
that the last reduction started. -/
def carryOut (job : Job) (version : Nat) (lookahead : Subtree) (state : Nat) :
    List Action → Bool → Option Nat → MachineM (Bool × Bool × Option Nat)
  | [], tried, last => return (false, tried, last)
  | .shift n :: _, tried, last => do
    push job version (some (lookahead.withExtra false)) n
    return (true, tried, last)
  | .shiftExtra :: _, tried, last => do
    push job version (some (lookahead.withExtra true)) state
    return (true, tried, last)
  | .shiftRepetition _ :: rest, tried, last =>
    carryOut job version lookahead state rest tried last
  | .reduce r :: rest, _, last => do
    let started ← reduce job version r
    carryOut job version lookahead state rest true (started.or last)
  | .accept :: _, tried, last => do
    accept job version lookahead
    return (true, tried, last)

/-- Reduce a reading until it moves past the lookahead or comes to a stop. -/
def advanceLoop (job : Job) (version : Nat) : Nat → Subtree → MachineM Unit
  | 0, _ => halt version
  | fuel + 1, lookahead => do
    let state := ((← get).top version).state
    let actions ← actionsOnTree state lookahead
    let (moved, tried, last) ← carryOut job version lookahead state actions false none
    if moved then return ()
    match last with
    | some v =>
      renumber v version
      advanceLoop job version fuel lookahead
    | none =>
      if tried then halt version
      else
        let word := job.grammar.word
        let asWord := lookahead.summary.keyword && terminal? lookahead != some word
        let usable ← if asWord then do pure (!(← actionsOn state word).isEmpty) else pure false
        if usable then
          let summary := { lookahead.summary with label := .token word }
          advanceLoop job version fuel (.mk summary [])
        else if state == Automaton.errorState then recover job version lookahead
        else pause version lookahead

/-- A bound for loops whose length grows with the text. -/
def patience (job : Job) : Nat := 64 * (job.source.size + 64)

/-- Move a reading past its next token. -/
def advance (job : Job) (version : Nat) : MachineM Unit := do
  let lookahead ← lex job version
  advanceLoop job version (patience job) lookahead

/-- Advance a reading until it is ahead of the others or stops. -/
def advanceAhead (job : Job) (version : Nat) : Nat → MachineM Unit
  | 0 => halt version
  | fuel + 1 => do
    if (← get).isActive version then
      advance job version
      let m ← get
      let place := (m.top version).place
      if place > m.furthest || (version > 0 && place == m.furthest) then
        modify fun m => { m with furthest := place }
      else advanceAhead job version fuel

/-- Advance the readings from `version` on. -/
def advanceAll (job : Job) : Nat → Nat → MachineM Unit
  | 0, _ => return ()
  | fuel + 1, version => do
    if version < (← get).heads.size then
      advanceAhead job version (patience job)
      advanceAll job fuel (version + 1)

/-- Compare reading `i` with the earlier readings from `j` on. Answers the
index at which to go on. -/
def rankAgainst (job : Job) (own : Standing) : Nat → Nat → Nat → MachineM Nat
  | 0, i, _ => return i + 1
  | fuel + 1, i, j => do
    if j ≥ i then return i + 1
    match ((← get).standing j).judge own with
    | .takeLeft =>
      removeVersion i
      return i
    | .preferLeft | .undecided =>
      if ← merge job j i then return i
      else rankAgainst job own fuel i (j + 1)
    | .preferRight =>
      if ← merge job j i then return i
      else
        swapVersions i j
        rankAgainst job own fuel i (j + 1)
    | .takeRight =>
      removeVersion j
      rankAgainst job own fuel (i - 1) j

/-- Rank the readings from `i` on against those before them. Answers the least
cost met among the readings without error. -/
def rankAll (job : Job) : Nat → Nat → Option Nat → MachineM (Option Nat)
  | 0, _, least => return least
  | fuel + 1, i, least => do
    let m ← get
    if i ≥ m.heads.size then return least
    if m.isHalted i then
      removeVersion i
      rankAll job fuel i least
    else
      let own := m.standing i
      let least :=
        if own.inError then least
        else some (match least with | some c => min c own.cost | none => own.cost)
      let next ← rankAgainst job own (m.heads.size + 1) i 0
      rankAll job fuel next least

/-- Resume the first waiting reading if none before it goes on, and drop the
other waiting ones. -/
def resume (job : Job) : Nat → Nat → Bool → Option Nat → MachineM (Option Nat)
  | 0, _, _, least => return least
  | fuel + 1, i, going, least => do
    let m ← get
    if i ≥ m.heads.size then return least
    match (m.head i).status with
    | .paused lookahead =>
      if !going && m.acceptCount < maxVersions then
        let least := some (m.errorCost i)
        modifyHead i fun h => { h with status := .active }
        let before := m.heads.size
        handleError job i lookahead
        -- readings made by the repair stand behind those still to be looked at
        let m ← get
        resumeRest before (i + 1) m.heads.size least
      else
        removeVersion i
        resume job fuel i going least
    | _ => resume job fuel (i + 1) true least
where
  /-- Drop the waiting readings among those that stood before the repair. -/
  resumeRest (stop i : Nat) : Nat → Option Nat → MachineM (Option Nat)
    | 0, least => return least
    | fuel + 1, least => do
      let m ← get
      if i ≥ stop then return least
      if m.isPaused i then
        removeVersion i
        resumeRest (stop - 1) i fuel least
      else resumeRest stop (i + 1) fuel least

/-- Rank the readings, keep the best few, and begin a repair if none of them
goes on. Answers the least cost. -/
def condense (job : Job) : MachineM (Option Nat) := do
  let size := (← get).heads.size
  let least ← rankAll job ((size + 2) * (size + 2)) 0 none
  modify fun m => { m with heads := m.heads.extract 0 maxVersions }
  resume job (maxVersions + 1) 0 false least

/-- Rounds until no reading is left or a finished tree beats them all. -/
def rounds (job : Job) : Nat → MachineM Unit
  | 0 => return ()
  | fuel + 1 => do
    if (← get).heads.isEmpty then return ()
    advanceAll job 1000 0
    let least ← condense job
    let done : Bool := match (← get).finished with
      | some tree => match least with
        | some cost => decide (tree.summary.cost < cost)
        | none => true
      | none => false
    if done then return () else rounds job fuel

end Machine

/-- Read the text of a job by the automaton; the tree shows the repairs that
the text needs. -/
def parse (automaton : Automaton) (job : Job) : Option Subtree :=
  let start : StackNode :=
    { state := Automaton.startState, place := 0, links := #[], cost := 0, nodeCount := 0
      weight := 0 }
  let machine : Machine := { automaton, nodes := #[start], heads := #[{ node := 0 }] }
  ((Machine.rounds job (Machine.patience job)).run machine).2.finished

end ComponentLikeness.Grammar
