import ComponentLikeness.Component.Fingerprint
import ComponentLikeness.Proofs.Similarity.ExactScores
import ComponentLikeness.Proofs.Text.Marks

/-!
# What a digest tells apart

A fingerprint can be read back from its canonical text, as long as its name and the
items of its sets do not hold the marks themselves (`Fingerprint.canonical_inj`). The
digest is a hash of that text in hexadecimal digits, which lose nothing (`hex_inj`). So
two digests are equal for equal fingerprints, and else only if two texts have one hash.
-/

namespace ComponentLikeness

open Text

namespace Text.StringSet

/-! ## Collected sets -/

/-- Sets with the same members are equal. -/
theorem eq_of_mem_iff {s t : StringSet} (h : ∀ x, x ∈ s ↔ x ∈ t) : s = t :=
  eq_of_items_perm ((List.perm_ext_iff_of_nodup s.nodup_items t.nodup_items).mpr h)

theorem mem_foldl_insert {x : String} {items : List String} {s : StringSet} :
    x ∈ items.foldl .insert s ↔ x ∈ s ∨ x ∈ items := by
  induction items generalizing s with
  | nil => simp
  | cons item items ih =>
    rw [List.foldl_cons, ih, mem_insert, List.mem_cons, or_assoc, or_left_comm]

end Text.StringSet

namespace Hash.Xxh3

/-! ## Hexadecimal digits -/

/-- The value of a hexadecimal digit in lower case. -/
def digitValue (c : Char) : Nat :=
  if c ≤ '9' then c.toNat - '0'.toNat else c.toNat - 'a'.toNat + 10

/-- The number that hexadecimal digits stand for. -/
def hexValue (digits : List Char) : Nat :=
  digits.foldl (fun value c => 16 * value + digitValue c) 0

theorem digitValue_digitChar : ∀ d < 16, digitValue d.digitChar = d := by decide

theorem hexValue_concat (digits : List Char) (c : Char) :
    hexValue (digits ++ [c]) = 16 * hexValue digits + digitValue c := by
  rw [hexValue, List.foldl_append]
  rfl

theorem hexValue_toDigits (n : Nat) : hexValue (Nat.toDigits 16 n) = n := by
  induction n using Nat.strongRecOn with
  | ind n ih =>
    rw [Nat.toDigits_eq_if (by decide)]
    split
    · rename_i hlt
      rw [← List.nil_append [n.digitChar], hexValue_concat, digitValue_digitChar n hlt]
      exact Nat.zero_add n
    · rename_i hge
      rw [hexValue_concat, ih (n / 16) (by omega),
        digitValue_digitChar _ (Nat.mod_lt n (by decide))]
      exact Nat.div_add_mod n 16

/-- Zeros in front do not count. -/
theorem hexValue_zeros_append (count : Nat) (digits : List Char) :
    hexValue (List.replicate count '0' ++ digits) = hexValue digits := by
  induction count with
  | zero => rfl
  | succ count ih => exact ih

theorem hex_inj {h h' : UInt64} : hex h = hex h' ↔ h = h' := by
  refine ⟨fun heq => ?_, congrArg hex⟩
  have hvalue := congrArg hexValue (String.ofList_injective heq)
  rw [hexValue_zeros_append, hexValue_zeros_append, hexValue_toDigits, hexValue_toDigits] at hvalue
  exact UInt64.toNat_inj.mp hvalue

/-- Two different inputs with one hash. -/
def Collide (a b : ByteArray) : Prop := a ≠ b ∧ hashBytes a = hashBytes b

end Hash.Xxh3

namespace Component.Fingerprint

open Hash.Xxh3

variable {f g : Fingerprint} {items items' : List String} {x y : List Char}

/-! ## Canonical texts -/

/-- An item that does not hold the marks of the canonical text. -/
def CleanItem (item : String) : Prop := partMark ∉ item.toList ∧ itemMark ∉ item.toList

instance (item : String) : Decidable (CleanItem item) := inferInstanceAs (Decidable (_ ∧ _))

/-- What stands in front of the signature holds no mark that could end it early. The
signature comes last and may hold any. -/
structure Clean (f : Fingerprint) : Prop where
  name : partMark ∉ f.name.toList
  props : ∀ item ∈ f.props, CleanItem item
  styleTokens : ∀ item ∈ f.styleTokens, CleanItem item

theorem CleanItem.not_mark {item : String} (h : CleanItem item) :
    ∀ c ∈ item.toList, ¬(c = partMark ∨ c = itemMark) := by
  rintro c hc (rfl | rfl)
  · exact h.1 hc
  · exact h.2 hc

/-- Items, each with the mark behind it. -/
def itemsText (items : List String) : List Char :=
  items.flatMap fun item => item.toList ++ [itemMark]

theorem itemsText_cons_append (item : String) (items : List String) (x : List Char) :
    itemsText (item :: items) ++ x = item.toList ++ itemMark :: (itemsText items ++ x) := by
  simp [itemsText]

theorem canonical_eq (f : Fingerprint) :
    f.canonical = String.ofList (f.name.toList ++
      partMark :: (itemsText f.props.items ++
        partMark :: (itemsText f.styleTokens.items ++
          partMark :: f.signature.toList))) := by
  simp [canonical, canonicalSet, itemsText]

/-- Items are read back up to the mark of the next part, whatever comes behind it. -/
theorem itemsText_inj (hitems : ∀ item ∈ items, CleanItem item)
    (hitems' : ∀ item ∈ items', CleanItem item)
    (h : itemsText items ++ partMark :: x = itemsText items' ++ partMark :: y) :
    items = items' ∧ x = y := by
  have hmarks : partMark ≠ itemMark := by decide
  induction items generalizing items' with
  | nil =>
    cases items' with
    | nil => exact ⟨rfl, (List.cons.inj h).2⟩
    | cons item' items' =>
      -- on one side there is no item, and the mark of the next part comes at once
      rw [itemsText_cons_append] at h
      obtain ⟨-, hmark, -⟩ := eq_of_cut_at_mark (a := []) (by simp)
        (hitems' item' List.mem_cons_self).not_mark (.inl rfl) (.inr rfl) h
      exact absurd hmark hmarks
  | cons item items ih =>
    obtain ⟨hitem, hitems⟩ := List.forall_mem_cons.mp hitems
    rw [itemsText_cons_append] at h
    cases items' with
    | nil =>
      obtain ⟨-, hmark, -⟩ := eq_of_cut_at_mark (b := []) hitem.not_mark (by simp)
        (.inr rfl) (.inl rfl) h
      exact absurd hmark.symm hmarks
    | cons item' items' =>
      obtain ⟨hitem', hitems'⟩ := List.forall_mem_cons.mp hitems'
      rw [itemsText_cons_append] at h
      obtain ⟨heq, -, hrest⟩ := eq_of_cut_at_mark hitem.not_mark hitem'.not_mark
        (.inr rfl) (.inr rfl) h
      obtain ⟨rfl, hxy⟩ := ih hitems hitems' hrest
      rw [String.toList_inj.mp heq]
      exact ⟨rfl, hxy⟩

theorem canonical_inj (hf : f.Clean) (hg : g.Clean) : f.canonical = g.canonical ↔ f = g := by
  refine ⟨fun h => ?_, congrArg canonical⟩
  rw [canonical_eq, canonical_eq] at h
  -- from the front to the back: each part ends in front of the mark of the next
  obtain ⟨hname, hparts⟩ := eq_of_cut_at_char hf.name hg.name (String.ofList_injective h)
  obtain ⟨hprops, hparts⟩ := itemsText_inj hf.props hg.props hparts
  obtain ⟨htokens, hsignature⟩ := itemsText_inj hf.styleTokens hg.styleTokens hparts
  cases f
  cases g
  congr
  · exact String.toList_inj.mp hname
  · exact StringSet.eq_of_items_perm (.of_eq hprops)
  · exact StringSet.eq_of_items_perm (.of_eq htokens)
  · exact String.toList_inj.mp hsignature

-- Marks in a name can stand for a prop.
example : ({ name := "A\x1eb\x1f" } : Fingerprint).canonical =
    ({ name := "A", props := .ofList ["b"], signature := "\x1e" } : Fingerprint).canonical := by
  decide

/-! ## Digests -/

/-- Fingerprints have one digest if they are equal, and else only by a collision. -/
theorem digest_eq_iff (hf : f.Clean) (hg : g.Clean) :
    f.digest = g.digest ↔ f = g ∨ Collide f.canonical.toUTF8 g.canonical.toUTF8 := by
  have hbytes : f.canonical.toUTF8 = g.canonical.toUTF8 ↔ f = g :=
    String.toByteArray_inj.trans (canonical_inj hf hg)
  rw [digest, digest, hex_inj, Collide, Ne, hbytes]
  constructor
  · intro hhash
    by_cases heq : f = g
    · exact .inl heq
    · exact .inr ⟨heq, hhash⟩
  · rintro (rfl | ⟨-, hhash⟩)
    · rfl
    · exact hhash

/-- A fingerprint whose sets are collected from lists: the props at once, and the style
tokens one at a time. -/
def collected (name : String) (props tokens : List String) (signature : String) :
    Fingerprint where
  name := name
  props := .ofList props
  styleTokens := tokens.foldl .insert ∅
  signature := signature

theorem collected_eq {props props' tokens tokens' : List String} (name signature : String)
    (hprops : ∀ x, x ∈ props ↔ x ∈ props') (htokens : ∀ x, x ∈ tokens ↔ x ∈ tokens') :
    collected name props tokens signature = collected name props' tokens' signature := by
  have hprops_eq : StringSet.ofList props = .ofList props' :=
    StringSet.eq_of_mem_iff fun x => by simp only [StringSet.mem_ofList, hprops]
  have htokens_eq : tokens.foldl StringSet.insert ∅ = tokens'.foldl .insert ∅ :=
    StringSet.eq_of_mem_iff fun x => by simp only [StringSet.mem_foldl_insert, htokens]
  rw [collected, collected, hprops_eq, htokens_eq]

/-- Clean fingerprints have the same canonical text exactly if they are equal, however
their texts are spread over the four fields. So their digests are equal if they are, and
else only if two different texts have one hash.

A digest does not show in which order, nor how often, the items of the sets were
collected. -/
theorem digest_tells_apart :
    (∀ f g : Fingerprint, f.Clean → g.Clean →
      (f.canonical = g.canonical ↔ f = g) ∧
        (f.digest = g.digest ↔ f = g ∨ Collide f.canonical.toUTF8 g.canonical.toUTF8)) ∧
    ∀ (name signature : String) (props props' tokens tokens' : List String),
      (∀ x, x ∈ props ↔ x ∈ props') → (∀ x, x ∈ tokens ↔ x ∈ tokens') →
      (collected name props tokens signature).digest =
        (collected name props' tokens' signature).digest := by
  constructor
  · intro f g hf hg
    exact ⟨canonical_inj hf hg, digest_eq_iff hf hg⟩
  · intro name signature props props' tokens tokens' hprops htokens
    rw [collected_eq name signature hprops htokens]

/-- One prop, with an empty name. -/
def emptyProp : Fingerprint := collected "" [""] [] ""

/-- The empty name as a style token. -/
def emptyToken : Fingerprint := collected "" [] [""] ""

theorem digest_tells_emptyProp_apart :
    emptyProp.Clean ∧ emptyToken.Clean ∧ emptyProp.canonical ≠ emptyToken.canonical ∧
      (emptyProp.digest = emptyToken.digest →
        Collide emptyProp.canonical.toUTF8 emptyToken.canonical.toUTF8) ∧
      (∀ x, x ∈ ["a", "b"] ↔ x ∈ ["b", "a", "b"]) ∧
      (collected "Card" ["a", "b"] ["b", "a", "b"] "<p>").digest =
        (collected "Card" ["b", "a", "b"] ["a", "b"] "<p>").digest := by
  obtain ⟨happart, hcollected⟩ := digest_tells_apart
  have hprop : emptyProp.Clean := ⟨by decide, by decide, by decide⟩
  have htoken : emptyToken.Clean := ⟨by decide, by decide, by decide⟩
  have hne : emptyProp ≠ emptyToken := by decide
  have hmembers : ∀ x, x ∈ ["a", "b"] ↔ x ∈ ["b", "a", "b"] := by simp [or_comm]
  obtain ⟨hcanonical, hdigest⟩ := happart emptyProp emptyToken hprop htoken
  refine ⟨hprop, htoken, mt hcanonical.mp hne, ?_, hmembers,
    hcollected "Card" "<p>" _ _ _ _ hmembers fun x => (hmembers x).symm⟩
  intro heq
  exact (hdigest.mp heq).resolve_left hne

end Component.Fingerprint

end ComponentLikeness
