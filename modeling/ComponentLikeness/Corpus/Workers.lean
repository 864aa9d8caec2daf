import ComponentLikeness.Corpus.Member

/-!
# Loading side by side

Each listed file has a worker, and the workers take turns. In one turn a worker
looks its text up among the fingerprints remembered, computes a fingerprint, or
remembers it; what other workers do in between is up to the order of turns.
-/

namespace ComponentLikeness

open Component

/-- How far a worker has come with its file. -/
inductive Progress where
  /-- Nothing has been done yet. -/
  | waiting
  /-- No fingerprint was remembered for the text. -/
  | missed (text : String)
  /-- The fingerprint of the text has been computed. -/
  | computed (text : String) (fingerprint : Fingerprint)
  /-- The file has been dealt with. -/
  | done (result : Except CorpusError CorpusEntry)

/-- A worker with its file. -/
structure Worker where
  file : MemberFile
  progress : Progress := .waiting

namespace Worker

/-- One turn of a worker. -/
def turn (settings : Settings) (w : Worker) : SessionM Worker :=
  match w.progress with
  | .waiting =>
    match w.file.readText settings.corpus.effectiveMaxFileSize.toNat with
    | .error e => return { w with progress := .done (.error e) }
    | .ok text => do
      match ← Session.lookup text with
      | some f => return { w with progress := .done (w.file.outcome (.ok f)) }
      | none => return { w with progress := .missed text }
  | .missed text => do
    match ← Session.compute settings.analysis text with
    | .ok f => return { w with progress := .computed text f }
    | .error e => return { w with progress := .done (w.file.outcome (.error e)) }
  | .computed text f => do
    Session.remember text f
    return { w with progress := .done (w.file.outcome (.ok f)) }
  | .done _ => return w

/-- The rest of a worker's turns, without others in between. -/
def finish (settings : Settings) (w : Worker) : SessionM (Except CorpusError CorpusEntry) := do
  let w ← w.turn settings
  let w ← w.turn settings
  let w ← w.turn settings
  match w.progress with
  | .done result => return result
  | _ => w.file.load settings

/-- Let the workers take the given turns, each named by its place. -/
def takeTurns (settings : Settings) : List Nat → List Worker → SessionM (List Worker)
  | [], workers => return workers
  | k :: turns, workers => do
    match workers[k]? with
    | none => takeTurns settings turns workers
    | some w => do
      let w ← w.turn settings
      takeTurns settings turns (workers.set k w)

end Worker

/-- Load files side by side: the workers take the given turns, and those that
are not done by then finish one after the other. -/
def loadByTurns (settings : Settings) (turns : List Nat) (files : List MemberFile) :
    SessionM (List (Except CorpusError CorpusEntry)) := do
  let workers ← Worker.takeTurns settings turns (files.map fun file => { file })
  workers.mapM (Worker.finish settings)

/-- Load files one after the other. -/
def loadInOrder (settings : Settings) (files : List MemberFile) :
    SessionM (List (Except CorpusError CorpusEntry)) :=
  files.mapM (MemberFile.load settings)

end ComponentLikeness
