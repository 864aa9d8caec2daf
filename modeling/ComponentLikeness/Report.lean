import ComponentLikeness.Error

/-!
# Reports

An answer together with the warnings that came up on the way to it.
-/

namespace ComponentLikeness

/-- An answer with warnings. -/
structure Report (α : Type) where
  data : α
  warnings : List CorpusError := []
deriving Inhabited

namespace Report

variable {α β : Type}

/-- Add a warning behind the others. -/
def addWarning (r : Report α) (warning : CorpusError) : Report α :=
  { r with warnings := r.warnings ++ [warning] }

/-- Whether there are no warnings. -/
def isClean (r : Report α) : Bool := r.warnings.isEmpty

/-- The number of warnings. -/
def warningCount (r : Report α) : Nat := r.warnings.length

/-- Change the answer and keep the warnings. -/
def map (f : α → β) (r : Report α) : Report β := { data := f r.data, warnings := r.warnings }

@[simp] theorem map_data (f : α → β) (r : Report α) : (r.map f).data = f r.data := rfl

@[simp] theorem map_warnings (f : α → β) (r : Report α) : (r.map f).warnings = r.warnings := rfl

@[simp] theorem warningCount_addWarning (r : Report α) (w : CorpusError) :
    (r.addWarning w).warningCount = r.warningCount + 1 := by
  simp [addWarning, warningCount]

end Report

end ComponentLikeness
