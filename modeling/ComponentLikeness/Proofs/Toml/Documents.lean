import ComponentLikeness.Proofs.Toml.Values

/-!
# Documents read back

A written document is a run of lines, and reading goes through them one at a time. What a
piece of a document does is to take the reader from one place to the next, with the header
above it and the entries found so far (`Reads`); pieces that follow each other are read in
turn (`Reads.append`). A header opens a table, the lines below it add an entry each, and a
blank line does nothing, so a document whose names and keys are all different is read back
section by section (`parse?_of_write?`).
-/

namespace ComponentLikeness.Toml

/-! ## Keys -/

/-- A key that needs no quotes. -/
def IsBareKey (key : String) : Prop :=
  key.toList ≠ [] ∧ ∀ c ∈ key.toList, isBareKeyChar c = true

instance (key : String) : Decidable (IsBareKey key) :=
  decidable_of_iff (key.toList ≠ [] ∧ key.toList.all isBareKeyChar = true)
    (and_congr_right fun _ => List.all_eq_true)

section Keys

variable {key : String}

theorem IsBareKey.exists_cons (h : IsBareKey key) :
    ∃ c behind, key.toList = c :: behind ∧ isBareKeyChar c = true := by
  obtain ⟨c, behind, hcons⟩ := List.exists_cons_of_ne_nil h.1
  exact ⟨c, behind, hcons, h.2 c (hcons ▸ List.mem_cons_self)⟩

theorem skipBlanks_cons {c : Char} (h : isBlank c = false) (rest : List Char) :
    skipBlanks (c :: rest) = c :: rest := by
  rw [skipBlanks, List.dropWhile_cons_of_neg (by simp [h])]

theorem skipBlanks_bareKeyChar {c : Char} (h : isBareKeyChar c = true) (rest : List Char) :
    skipBlanks (c :: rest) = c :: rest := by
  have hspace := ne_of_true_of_false h (show isBareKeyChar ' ' = false from rfl)
  have htab := ne_of_true_of_false h (show isBareKeyChar '\t' = false from rfl)
  exact skipBlanks_cons (by simp [isBlank, hspace, htab]) rest

theorem simpleKey?_key (h : IsBareKey key) {stop : Char} (hstop : isBareKeyChar stop = false)
    (rest : List Char) :
    simpleKey? (key.toList ++ stop :: rest) = some (key, stop :: rest) := by
  have htake := Text.takeWhile_append_mark h.2 hstop rest
  have hdrop := Text.dropWhile_append_mark h.2 hstop rest
  obtain ⟨c, behind, hcons, hc⟩ := h.exists_cons
  unfold simpleKey?
  split
  · rename_i heq
    rw [hcons] at heq
    exact absurd (List.cons.inj heq).1 (ne_of_true_of_false hc rfl)
  · rename_i heq
    rw [hcons] at heq
    exact absurd (List.cons.inj heq).1 (ne_of_true_of_false hc rfl)
  · simp only [htake, hdrop]
    simp [h.1]

/-- A key without a point behind it is a path of one step. -/
theorem key?_key (h : IsBareKey key) {stop mark : Char} (hstop : isBareKeyChar stop = false)
    (hpoint : mark ≠ '.') {rest rest' : List Char}
    (hskip : skipBlanks (stop :: rest) = mark :: rest') (steps : Nat) :
    key? (steps + 1) (key.toList ++ stop :: rest) = some ([], key, mark :: rest') := by
  have hkey := simpleKey?_key h hstop rest
  obtain ⟨c, behind, hcons, hc⟩ := h.exists_cons
  rw [hcons, List.cons_append] at hkey ⊢
  simp only [key?, skipBlanks_bareKeyChar hc, hkey, Option.bind_eq_bind, Option.bind_some, hskip]
  split
  · rename_i heq
    exact absurd (List.cons.inj heq).1 hpoint
  · rfl

end Keys

/-! ## Lines -/

section Lines

variable {text rest : List Char} {path : List String} {key : String}

/-- A header opens its table. -/
theorem lines?_header (hpath : headerPath? text = some (path, key, rest))
    (hbracket : text.head? ≠ some '[') (fuel : Nat) (here : List String) (entries : Entries) :
    lines? (fuel + 1) here entries ('[' :: text) =
      (openTable path key entries).bind fun opened =>
        (lineEnd? rest).bind (lines? fuel (path ++ [key]) opened) := by
  rw [lines?, skipBlanks_cons rfl]
  split
  · rename_i heq
    exact absurd heq (List.cons_ne_nil _ _)
  · rename_i heq
    exact absurd (List.cons.inj heq).1 (by decide)
  · rename_i heq
    exact absurd (List.cons.inj heq).1 (by decide)
  · rename_i heq
    exact absurd (List.cons.inj heq).1 (by decide)
  · rename_i heq
    rw [(List.cons.inj heq).2] at hbracket
    exact absurd rfl hbracket
  · rename_i heq
    rw [← (List.cons.inj heq).2, hpath]
    rfl
  · rename_i hother
    exact absurd rfl (hother text)

/-- A line that begins with a key assigns a value. -/
theorem lines?_assignment {c : Char} {value : Value} (hc : isBareKeyChar c = true)
    (hassign : assignment? (value? maxNesting) (c :: text) = some (path, key, value, rest))
    (fuel : Nat) (here : List String) (entries : Entries) :
    lines? (fuel + 1) here entries (c :: text) =
      (changeAt (putDotted key value path) here entries).bind fun changed =>
        (lineEnd? rest).bind (lines? fuel here changed) := by
  have hstart : ∀ {mark : Char} {text' : List Char}, c :: text = mark :: text' →
      isBareKeyChar mark ≠ false := by
    intro mark text' heq hmark
    exact ne_of_true_of_false hc hmark (List.cons.inj heq).1
  -- no other kind of line begins like a key
  rw [lines?, skipBlanks_bareKeyChar hc]
  split
  · rename_i heq
    exact absurd heq (List.cons_ne_nil _ _)
  · rename_i heq
    exact absurd rfl (hstart heq)
  · rename_i heq
    exact absurd rfl (hstart heq)
  · rename_i heq
    exact absurd rfl (hstart heq)
  · rename_i heq
    exact absurd rfl (hstart heq)
  · rename_i heq
    exact absurd rfl (hstart heq)
  · rw [hassign]
    rfl

end Lines

/-- A written entry assigns its value to its key. -/
theorem assignment?_writeEntry {key : String} {setting : Setting} (hkey : IsBareKey key)
    (hfits : setting.fits = true) (hlossless : setting.IsLossless) (rest : List Char) :
    assignment? (value? maxNesting) (writeEntry key setting ++ rest) =
      some ([], key, setting.toValue, '\n' :: rest) := by
  have hskip : skipBlanks (' ' :: (writeSetting setting ++ '\n' :: rest)) =
      writeSetting setting ++ '\n' :: rest := by
    obtain ⟨c, behind, hcons, hc⟩ := exists_writeSetting_eq hlossless
    rw [hcons, List.cons_append]
    exact skipBlanks_cons hc _
  have hwritten : writeEntry key setting ++ rest =
      key.toList ++ ' ' :: ('=' :: ' ' :: (writeSetting setting ++ '\n' :: rest)) := by
    simp [writeEntry]
  have hpath : key? (78 + 1) (writeEntry key setting ++ rest) =
      some ([], key, '=' :: ' ' :: (writeSetting setting ++ '\n' :: rest)) := by
    rw [hwritten]
    exact key?_key hkey rfl (by decide) (by rfl) 78
  rw [assignment?, maxNesting, hpath]
  simp only [Option.bind_eq_bind, Option.bind_some, hskip, value?_writeSetting 78 hfits hlossless]
  rfl

/-! ## Entries -/

section Entries

variable {key : String} {entries : Entries} {change : Option Value → Option Value}

/-- A key that is not there yet is added behind all others. -/
theorem changeEntry_of_not_mem (h : key ∉ entries.map Prod.fst) :
    changeEntry key change entries = (change none).map fun v => entries ++ [(key, v)] := by
  induction entries with
  | nil => rfl
  | cons e rest ih =>
    obtain ⟨k, v⟩ := e
    rw [List.map_cons, List.mem_cons, not_or] at h
    rw [changeEntry, if_neg (Ne.symm h.1), ih h.2]
    cases change none <;> rfl

/-- The last key is changed if it is like none of the others. -/
theorem changeEntry_last (h : key ∉ entries.map Prod.fst) (v : Value) :
    changeEntry key change (entries ++ [(key, v)]) =
      (change (some v)).map fun w => entries ++ [(key, w)] := by
  induction entries with
  | nil => simp [changeEntry]
  | cons e rest ih =>
    obtain ⟨k, w⟩ := e
    rw [List.map_cons, List.mem_cons, not_or] at h
    rw [List.cons_append, changeEntry, if_neg (Ne.symm h.1), ih h.2]
    cases change (some v) <;> rfl

end Entries

/-! ## Pieces of a document -/

/-- Reading a piece leads from a header and the entries so far to others, whatever follows. -/
def Reads (text : List Char) (here : List String) (entries : Entries) (here' : List String)
    (entries' : Entries) : Prop :=
  ∀ (rest : List Char) (fuel : Nat), (text ++ rest).length < fuel →
    ∃ fuel', rest.length < fuel' ∧
      lines? fuel here entries (text ++ rest) = lines? fuel' here' entries' rest

namespace Reads

variable {text text' : List Char} {here here' here'' : List String}
  {entries entries' entries'' : Entries}

theorem nil : Reads [] here entries here entries :=
  fun _ fuel hfuel => ⟨fuel, hfuel, rfl⟩

theorem append (h : Reads text here entries here' entries')
    (h' : Reads text' here' entries' here'' entries'') :
    Reads (text ++ text') here entries here'' entries'' := by
  intro rest fuel hfuel
  rw [List.append_assoc] at hfuel ⊢
  obtain ⟨fuel', hfuel', hread⟩ := h (text' ++ rest) fuel hfuel
  obtain ⟨fuel'', hfuel'', hread'⟩ := h' rest fuel' hfuel'
  exact ⟨fuel'', hfuel'', hread.trans hread'⟩

/-- A line is read in one step. -/
theorem of_line (hne : text ≠ [])
    (h : ∀ rest fuel, lines? (fuel + 1) here entries (text ++ rest) =
      lines? fuel here' entries' rest) : Reads text here entries here' entries' := by
  intro rest fuel hfuel
  have hlen := List.length_pos_of_ne_nil hne
  rw [List.length_append] at hfuel
  obtain ⟨fuel, rfl⟩ := Nat.exists_eq_add_one_of_ne_zero (Nat.ne_zero_of_lt hfuel)
  exact ⟨fuel, by omega, h rest fuel⟩

theorem blank : Reads ['\n'] here entries here entries :=
  of_line (List.cons_ne_nil _ _) fun _ _ => rfl

/-- The header of a new section opens its table. -/
theorem header {name : String} (hname : IsBareKey name) (hnew : name ∉ entries.map Prod.fst) :
    Reads ('[' :: name.toList ++ [']', '\n']) here entries [name]
      (entries ++ [(name, .table .header [])]) := by
  refine of_line (List.cons_ne_nil _ _) fun rest fuel => ?_
  have hpath : headerPath? (name.toList ++ ']' :: '\n' :: rest) =
      some ([], name, '\n' :: rest) := by
    rw [headerPath?, maxNesting, key?_key hname rfl (by decide) (skipBlanks_cons rfl _)]
    rfl
  have hopen : openTable [] name entries = some (entries ++ [(name, .table .header [])]) :=
    changeEntry_of_not_mem hnew
  have hbracket : (name.toList ++ ']' :: '\n' :: rest).head? ≠ some '[' := by
    obtain ⟨c, behind, hcons, hc⟩ := hname.exists_cons
    rw [hcons]
    simpa using ne_of_true_of_false hc rfl
  rw [List.append_assoc, List.cons_append]
  refine (lines?_header hpath hbracket fuel here entries).trans ?_
  rw [hopen]
  rfl

/-- A line with a new key adds its value to the table of the section. -/
theorem entry {name key : String} {setting : Setting} {inner : Entries} (hkey : IsBareKey key)
    (hname : name ∉ entries.map Prod.fst) (hnew : key ∉ inner.map Prod.fst)
    (hfits : setting.fits = true) (hlossless : setting.IsLossless) :
    Reads (writeEntry key setting) [name] (entries ++ [(name, .table .header inner)]) [name]
      (entries ++ [(name, .table .header (inner ++ [(key, setting.toValue)]))]) := by
  refine of_line ?_ fun rest fuel => ?_
  · simp [writeEntry]
  have hassign := assignment?_writeEntry hkey hfits hlossless rest
  have hchange : changeAt (putDotted key setting.toValue []) [name]
      (entries ++ [(name, .table .header inner)]) =
        some (entries ++ [(name, .table .header (inner ++ [(key, setting.toValue)]))]) := by
    have hput : putDotted key setting.toValue [] inner = some (inner ++ [(key, setting.toValue)]) :=
      changeEntry_of_not_mem hnew
    rw [changeAt, changeEntry_last hname]
    simp only [changeAt, hput, Option.map_some]
  obtain ⟨c, behind, hcons, hc⟩ := hkey.exists_cons
  rw [writeEntry, hcons] at hassign ⊢
  refine (lines?_assignment hc hassign fuel _ _).trans ?_
  rw [hchange]
  rfl

end Reads

/-! ## Sections -/

/-- The entries that settings are read as. -/
def toEntries (settings : List (String × Setting)) : Entries :=
  settings.map fun entry => (entry.1, entry.2.toValue)

/-- The tables that sections are read as. -/
def toTables (sections : List (String × List (String × Setting))) : Entries :=
  sections.map fun s => (s.1, .table .header (toEntries s.2))

/-- A section whose keys need no quotes and differ from each other, and whose values are
written without loss. -/
structure IsPlainSection (name : String) (settings : List (String × Setting)) : Prop where
  name_bare : IsBareKey name
  keys_bare : ∀ entry ∈ settings, IsBareKey entry.1
  keys_nodup : (settings.map Prod.fst).Nodup
  lossless : ∀ entry ∈ settings, entry.2.IsLossless

/-- A document of such sections, whose names differ from each other. -/
structure IsPlainDocument (sections : List (String × List (String × Setting))) : Prop where
  names_nodup : (sections.map Prod.fst).Nodup
  plain : ∀ s ∈ sections, IsPlainSection s.1 s.2

namespace Reads

/-- The lines below a header add an entry each. -/
theorem settings {name : String} {entries : Entries} (hname : name ∉ entries.map Prod.fst)
    {settings : List (String × Setting)} (hbare : ∀ entry ∈ settings, IsBareKey entry.1)
    (hlossless : ∀ entry ∈ settings, entry.2.IsLossless)
    (hfits : ∀ entry ∈ settings, entry.2.fits = true) :
    ∀ inner : Entries, (inner.map Prod.fst ++ settings.map Prod.fst).Nodup →
      Reads (settings.flatMap fun entry => writeEntry entry.1 entry.2) [name]
        (entries ++ [(name, .table .header inner)]) [name]
        (entries ++ [(name, .table .header (inner ++ toEntries settings))]) := by
  induction settings with
  | nil =>
    intro inner _
    rw [toEntries, List.map_nil, List.append_nil]
    exact nil
  | cons e rest ih =>
    intro inner hnodup
    rw [List.forall_mem_cons] at hbare hlossless hfits
    have hnew : e.1 ∉ inner.map Prod.fst := by
      intro hmem
      rw [List.nodup_append] at hnodup
      exact hnodup.2.2 _ hmem _ List.mem_cons_self rfl
    have hrest := ih hbare.2 hlossless.2 hfits.2 (inner ++ [(e.1, e.2.toValue)])
      (by simpa using hnodup)
    rw [List.append_assoc] at hrest
    exact (entry hbare.1 hname hnew hfits.1 hlossless.1).append hrest

theorem writeSection {name : String} {settings : List (String × Setting)}
    (h : IsPlainSection name settings) (hfits : ∀ entry ∈ settings, entry.2.fits = true)
    {entries : Entries} (hname : name ∉ entries.map Prod.fst) (here : List String) :
    Reads (writeSection name settings) here entries [name]
      (entries ++ toTables [(name, settings)]) :=
  (header h.name_bare hname).append
    (Reads.settings hname h.keys_bare h.lossless hfits [] h.keys_nodup)

/-- Sections are read one after the other. -/
theorem writeSections (sections : List (String × List (String × Setting))) :
    (∀ s ∈ sections, IsPlainSection s.1 s.2) →
      (∀ s ∈ sections, ∀ entry ∈ s.2, entry.2.fits = true) →
      ∀ (here : List String) (entries : Entries),
        (entries.map Prod.fst ++ sections.map Prod.fst).Nodup →
          ∃ here', Reads (writeSections sections) here entries here'
            (entries ++ toTables sections) := by
  induction sections with
  | nil =>
    intro _ _ here entries _
    rw [toTables, List.map_nil, List.append_nil]
    exact ⟨here, nil⟩
  | cons s rest ih =>
    intro hplain hfits here entries hnodup
    rw [List.forall_mem_cons] at hplain hfits
    have hname : s.1 ∉ entries.map Prod.fst := by
      intro hmem
      rw [List.nodup_append] at hnodup
      exact hnodup.2.2 _ hmem _ List.mem_cons_self rfl
    have hfirst := Reads.writeSection hplain.1 hfits.1 hname here
    obtain ⟨here', hrest⟩ := ih hplain.2 hfits.2 [s.1] (entries ++ toTables [s])
      (by simpa [toTables] using hnodup)
    rw [List.append_assoc] at hrest
    -- a blank line stands behind every section but the last
    cases rest with
    | nil => exact ⟨_, hfirst⟩
    | cons t rest => exact ⟨here', hfirst.append (blank.append hrest)⟩

end Reads

/-! ## Documents -/

theorem dropByteOrderMark_writeSections (sections : List (String × List (String × Setting))) :
    dropByteOrderMark (writeSections sections) = writeSections sections := by
  match sections with
  | [] => rfl
  | [s] => rfl
  | s :: t :: rest => rfl

/-- A document can be written if all of its whole numbers have a written form. -/
theorem write?_eq_some_iff {sections : List (String × List (String × Setting))} {text : String} :
    write? sections = some text ↔
      (∀ s ∈ sections, ∀ entry ∈ s.2, entry.2.fits = true) ∧
        String.ofList (writeSections sections) = text := by
  unfold write?
  by_cases hfits : ∀ s ∈ sections, ∀ entry ∈ s.2, entry.2.fits = true
  · rw [if_pos (by simpa only [List.all_eq_true] using hfits), Option.some.injEq]
    exact (and_iff_right hfits).symm
  · rw [if_neg (by simpa only [List.all_eq_true] using hfits)]
    constructor
    · intro h
      cases h
    · intro h
      exact absurd h.1 hfits

/-- A written document is read back. -/
theorem parse?_of_write? {sections : List (String × List (String × Setting))} {text : String}
    (h : IsPlainDocument sections) (hwrite : write? sections = some text) :
    parse? text = some (toTables sections) := by
  obtain ⟨hfits, rfl⟩ := write?_eq_some_iff.mp hwrite
  obtain ⟨here, hreads⟩ := Reads.writeSections sections h.plain hfits [] []
    (by simpa using h.names_nodup)
  obtain ⟨fuel, hfuel, hread⟩ := hreads [] ((writeSections sections).length + 1)
    (by simp)
  obtain ⟨fuel, rfl⟩ := Nat.exists_eq_add_one_of_ne_zero (Nat.ne_zero_of_lt hfuel)
  rw [List.append_nil] at hread
  rw [parse?, String.toList_ofList, dropByteOrderMark_writeSections, String.length_ofList, hread]
  rfl

end ComponentLikeness.Toml
