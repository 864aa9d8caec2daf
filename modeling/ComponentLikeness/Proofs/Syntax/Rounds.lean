import ComponentLikeness.Proofs.Syntax.Height

/-!
# The walk round by round

The loop that looks for a node beyond a limit keeps a cursor and a counter of depth,
which is a machine word: it rises by one with each step down and falls by one with each
step up. In each round the loop looks at a node or leaves one (`Walker.step`). A round
that would take the counter out of its range would end the loop.

What a round does is said by what lies ahead of it (`Walker.step_cases`): looking at a
node takes it off the list, leaving one takes nothing, and in both cases less is left to
be done. Hence the loop ends, its counter is always the distance of its cursor from the
root, and it looks at the nodes of the tree one by one in pre-order, up to the first
beyond the limit if there is one (`Walker.exists_run`).
-/

namespace ComponentLikeness.Syntax

/-! ## The loop -/

/-- What the loop does in its next round: look at the node of the cursor, or leave the
node, everything below it having been seen. -/
inductive Stage where
  | looking
  | leaving

/-- A state of the loop. -/
structure Walker where
  stage : Stage
  cursor : Cursor
  counter : UInt32

/-- How the loop ends. -/
inductive Ending where
  /-- At a node beyond the limit. -/
  | beyond (t : SyntaxTree)
  /-- Having left the root. -/
  | finished
  /-- In a round that would take the counter out of its range. -/
  | outOfRange

/-- What a round comes to. -/
inductive Round where
  | next (w : Walker)
  | last (ending : Ending)

namespace Ending

/-- The node that the loop ends at. -/
def node? : Ending → Option SyntaxTree
  | beyond t => some t
  | _ => none

end Ending

namespace Walker

/-- The loop begins by looking at the root. -/
def ofRoot (t : SyntaxTree) : Walker := ⟨.looking, .ofRoot t, 0⟩

/-- One round of the loop. -/
def step (limit : UInt32) (w : Walker) : Round :=
  match w.stage with
  | .looking =>
    if limit < w.counter then .last (.beyond w.cursor.focus)
    else
      match w.cursor.firstChild? with
      | some d =>
        if w.counter.toNat + 1 < UInt32.size then .next ⟨.looking, d, w.counter + 1⟩
        else .last .outOfRange
      | none => .next ⟨.leaving, w.cursor, w.counter⟩
  | .leaving =>
    match w.cursor.nextSibling? with
    | some d => .next ⟨.looking, d, w.counter⟩
    | none =>
      match w.cursor.parent? with
      | some d =>
        if w.counter = 0 then .last .outOfRange else .next ⟨.leaving, d, w.counter - 1⟩
      | none => .last .finished

/-- All rounds of the loop: the states that it goes through and how it ends. -/
inductive Run (limit : UInt32) : Walker → List Walker → Ending → Prop
  | last {w : Walker} {ending : Ending} (h : w.step limit = .last ending) :
      Run limit w [w] ending
  | next {w w' : Walker} {ws : List Walker} {ending : Ending} (h : w.step limit = .next w')
      (rest : Run limit w' ws ending) : Run limit w (w :: ws) ending

/-- The node that is looked at, with the depth that has been counted for it. -/
def seen? (w : Walker) : Option (SyntaxTree × Nat) :=
  match w.stage with
  | .looking => some (w.cursor.focus, w.counter.toNat)
  | .leaving => none

/-! ## Single rounds -/

/-- The counter is the distance of the cursor from the root. -/
def Counts (w : Walker) : Prop := w.counter.toNat = w.cursor.depth

/-- What the loop still looks at, whatever the limit. -/
def ahead (w : Walker) : List (SyntaxTree × Nat) :=
  match w.stage with
  | .looking => w.cursor.ahead
  | .leaving => w.cursor.aheadBehind

/-- A bound for the number of rounds that are left: each node ahead is looked at and
left, and the ancestors are left. -/
def rank (w : Walker) : Nat :=
  match w.stage with
  | .looking => 2 * w.cursor.pending + w.cursor.depth
  | .leaving => 2 * w.cursor.pendingBehind + w.cursor.depth + 1

theorem rank_pos (w : Walker) : 0 < w.rank := by
  obtain ⟨stage, c, counter⟩ := w
  cases stage with
  | looking =>
    have hsize := SyntaxTree.size_pos c.focus
    show 0 < 2 * (c.focus.size + c.pendingBehind) + c.depth
    omega
  | leaving => exact Nat.succ_pos _

/-- A round that is not the last. It takes the node that is looked at, if any, off what
lies ahead. -/
structure Advances (limit : UInt32) (w w' : Walker) : Prop where
  step_eq : w.step limit = .next w'
  counts : w'.Counts
  rank_lt : w'.rank < w.rank
  ahead_eq : w.ahead = w.seen?.toList ++ w'.ahead
  within : ∀ n ∈ w.seen?, n.2 ≤ limit.toNat

section Rounds

variable {limit : UInt32} {c d : Cursor} {counter : UInt32}

/-- A step down to the first child. -/
theorem advances_down (hcounts : counter.toNat = c.depth) (hlimit : ¬limit < counter)
    (hchild : c.firstChild? = some d) (hrange : d.depth < UInt32.size) :
    Advances limit ⟨.looking, c, counter⟩ ⟨.looking, d, counter + 1⟩ := by
  have hdepth : d.depth = c.depth + 1 := Cursor.depth_firstChild hchild
  have hpending := Cursor.pending_firstChild hchild
  have hroom : counter.toNat + 1 < UInt32.size := by omega
  have hcounter : (counter + 1).toNat = counter.toNat + 1 := by
    rw [UInt32.toNat_add, UInt32.toNat_one]
    exact Nat.mod_eq_of_lt hroom
  refine ⟨?_, ?_, ?_, ?_, ?_⟩
  · simp only [step, if_neg hlimit, hchild, if_pos hroom]
  · show (counter + 1).toNat = d.depth
    omega
  · show 2 * d.pending + d.depth < 2 * c.pending + c.depth
    omega
  · show c.ahead = (c.focus, counter.toNat) :: d.ahead
    rw [hcounts]
    exact Cursor.ahead_firstChild hchild
  · intro n hn
    obtain rfl : (c.focus, counter.toNat) = n := Option.some.inj hn
    exact UInt32.not_lt.mp hlimit

/-- A node without children is left at once. -/
theorem advances_turn (hcounts : counter.toNat = c.depth) (hlimit : ¬limit < counter)
    (hchild : c.firstChild? = none) :
    Advances limit ⟨.looking, c, counter⟩ ⟨.leaving, c, counter⟩ := by
  have hsize := SyntaxTree.size_pos c.focus
  refine ⟨?_, hcounts, ?_, ?_, ?_⟩
  · simp only [step, if_neg hlimit, hchild]
  · show 2 * c.pendingBehind + c.depth + 1 < 2 * c.pending + c.depth
    rw [Cursor.pending]
    omega
  · show c.ahead = (c.focus, counter.toNat) :: c.aheadBehind
    rw [hcounts]
    exact Cursor.ahead_of_firstChild_eq_none hchild
  · intro n hn
    obtain rfl : (c.focus, counter.toNat) = n := Option.some.inj hn
    exact UInt32.not_lt.mp hlimit

/-- A step along to the next sibling. -/
theorem advances_along (hcounts : counter.toNat = c.depth) (hsibling : c.nextSibling? = some d) :
    Advances limit ⟨.leaving, c, counter⟩ ⟨.looking, d, counter⟩ := by
  obtain ⟨hdepth, hahead⟩ := Cursor.aheadBehind_nextSibling hsibling
  have hpending := Cursor.pending_nextSibling hsibling
  refine ⟨?_, hcounts.trans hdepth.symm, ?_, hahead, ?_⟩
  · simp only [step, hsibling]
  · show 2 * d.pending + d.depth < 2 * c.pendingBehind + c.depth + 1
    omega
  · intro n hn
    exact nomatch hn

/-- A step up to the parent. The cursor is below the root, so the counter can be
lowered. -/
theorem advances_up (hcounts : counter.toNat = c.depth) (hsibling : c.nextSibling? = none)
    (hparent : c.parent? = some d) :
    Advances limit ⟨.leaving, c, counter⟩ ⟨.leaving, d, counter - 1⟩ := by
  have hdepth : d.depth + 1 = c.depth := Cursor.above_parent hparent
  have hpending := Cursor.pendingBehind_parent hsibling hparent
  have hpositive : counter ≠ 0 := by
    rintro rfl
    rw [UInt32.toNat_zero] at hcounts
    omega
  have hcounter : (counter - 1).toNat = counter.toNat - 1 := by
    refine UInt32.toNat_sub_of_le counter 1 (UInt32.le_iff_toNat_le.mpr ?_)
    rw [UInt32.toNat_one]
    omega
  refine ⟨?_, ?_, ?_, Cursor.aheadBehind_parent hsibling hparent, ?_⟩
  · simp only [step, hsibling, hparent, if_neg hpositive]
  · show (counter - 1).toNat = d.depth
    omega
  · show 2 * d.pendingBehind + d.depth + 1 < 2 * c.pendingBehind + c.depth + 1
    omega
  · intro n hn
    exact nomatch hn

end Rounds

/-- What a round comes to while the counter is right and nothing ahead lies deeper than
a counter can tell: it ends the loop at a node beyond the limit, or leads on, or ends
the loop with nothing ahead. -/
theorem step_cases (limit : UInt32) {w : Walker} (hcounts : w.Counts)
    (hrange : ∀ n ∈ w.ahead, n.2 < UInt32.size) :
    (∃ n rest, w.ahead = n :: rest ∧ w.seen? = some n ∧ limit.toNat < n.2 ∧
      w.step limit = .last (.beyond n.1)) ∨
    (∃ w', Advances limit w w') ∨
    (w.ahead = [] ∧ w.seen? = none ∧ w.step limit = .last .finished) := by
  obtain ⟨stage, c, counter⟩ := w
  change counter.toNat = c.depth at hcounts
  cases stage with
  | looking =>
    by_cases hlimit : limit < counter
    · obtain ⟨rest, hahead⟩ := Cursor.exists_ahead_eq c
      refine .inl ⟨(c.focus, c.depth), rest, hahead, ?_, ?_, ?_⟩
      · rw [← hcounts]
        rfl
      · exact hcounts ▸ hlimit
      · simp only [step, if_pos hlimit]
    cases hchild : c.firstChild? with
    | none => exact .inr (.inl ⟨_, advances_turn hcounts hlimit hchild⟩)
    | some d =>
      have hd : (d.focus, d.depth) ∈ c.ahead := by
        obtain ⟨rest, hahead⟩ := Cursor.exists_ahead_eq d
        rw [Cursor.ahead_firstChild hchild, hahead]
        exact List.mem_cons_of_mem _ List.mem_cons_self
      exact .inr (.inl ⟨_, advances_down hcounts hlimit hchild (hrange _ hd)⟩)
  | leaving =>
    cases hsibling : c.nextSibling? with
    | some d => exact .inr (.inl ⟨_, advances_along hcounts hsibling⟩)
    | none =>
      cases hparent : c.parent? with
      | some d => exact .inr (.inl ⟨_, advances_up hcounts hsibling hparent⟩)
      | none =>
        refine .inr (.inr ⟨Cursor.aheadBehind_of_parent_eq_none hsibling hparent, rfl, ?_⟩)
        simp only [step, hsibling, hparent]

/-! ## The whole loop -/

/-- Going through some nodes, the loop sees all of them, or all up to the first that
lies beyond the limit, where it ends. -/
inductive Sees (limit : Nat) :
    List (SyntaxTree × Nat) → List (SyntaxTree × Nat) → Ending → Prop
  | all {ns : List (SyntaxTree × Nat)} (hwithin : ∀ n ∈ ns, n.2 ≤ limit) :
      Sees limit ns ns .finished
  | upTo {front rest : List (SyntaxTree × Nat)} {n : SyntaxTree × Nat}
      (hwithin : ∀ m ∈ front, m.2 ≤ limit) (hbeyond : limit < n.2) :
      Sees limit (front ++ n :: rest) (front ++ [n]) (.beyond n.1)

theorem Sees.append {limit : Nat} {front ns seen : List (SyntaxTree × Nat)} {ending : Ending}
    (hfront : ∀ n ∈ front, n.2 ≤ limit) (h : Sees limit ns seen ending) :
    Sees limit (front ++ ns) (front ++ seen) ending := by
  cases h with
  | all hwithin => exact .all (List.forall_mem_append.mpr ⟨hfront, hwithin⟩)
  | upTo hwithin hbeyond =>
    rw [← List.append_assoc, ← List.append_assoc]
    exact .upTo (List.forall_mem_append.mpr ⟨hfront, hwithin⟩) hbeyond

/-- From any state in which the counter is right, the loop comes to its end, and the
counter is right in all states on the way. -/
theorem exists_run (limit : UInt32) (w : Walker) (hcounts : w.Counts)
    (hrange : ∀ n ∈ w.ahead, n.2 < UInt32.size) :
    ∃ ws ending, Run limit w ws ending ∧ ws.length ≤ w.rank ∧ (∀ v ∈ ws, v.Counts) ∧
      Sees limit.toNat w.ahead (ws.filterMap seen?) ending := by
  -- the rank falls with every round
  induction hrank : w.rank using Nat.strongRecOn generalizing w with
  | ind rank ih =>
    subst hrank
    rcases step_cases limit hcounts hrange with
      ⟨n, rest, hahead, hseen, hbeyond, hstep⟩ | ⟨w', hadvance⟩ | ⟨hahead, hseen, hstep⟩
    · refine ⟨[w], _, .last hstep, w.rank_pos, by simpa using hcounts, ?_⟩
      rw [hahead, List.filterMap_cons_some hseen]
      have hnone : ∀ m ∈ ([] : List (SyntaxTree × Nat)), m.2 ≤ limit.toNat := by simp
      exact .upTo hnone hbeyond
    · have hrange' : ∀ n ∈ w'.ahead, n.2 < UInt32.size := fun n hn =>
        hrange n (hadvance.ahead_eq ▸ List.mem_append_right _ hn)
      obtain ⟨ws, ending, hrun, hlength, hall, hsees⟩ :=
        ih w'.rank hadvance.rank_lt w' hadvance.counts hrange' rfl
      refine ⟨w :: ws, ending, .next hadvance.step_eq hrun, ?_, ?_, ?_⟩
      · exact Nat.lt_of_le_of_lt hlength hadvance.rank_lt
      · exact List.forall_mem_cons.mpr ⟨hcounts, hall⟩
      · have hseen : (w :: ws).filterMap seen? = w.seen?.toList ++ ws.filterMap seen? := by
          cases hw : w.seen? <;> simp [hw]
        rw [hadvance.ahead_eq, hseen]
        exact hsees.append fun n hn => hadvance.within n (Option.mem_toList.mp hn)
    · refine ⟨[w], _, .last hstep, w.rank_pos, by simpa using hcounts, ?_⟩
      rw [hahead, List.filterMap_cons_none hseen]
      exact .all (by simp)

end Walker

end ComponentLikeness.Syntax
