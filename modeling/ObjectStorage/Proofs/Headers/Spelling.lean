import ObjectStorage.Proofs.Headers.Names
import ObjectStorage.Proofs.Text.Escaped

/-!
# Spellings of ASCII names

Two names of ASCII characters have the same canonical spelling exactly if they are the same in small
letters, and the spelling of such a name is its own spelling.  A name that can stand on the wire is
of ASCII characters, and so can its spelling.
-/

namespace ObjectStorage

namespace Text

def IsAscii (text : String) : Prop := ∀ c ∈ text.toList, c.toNat < 128

instance (text : String) : Decidable (IsAscii text) :=
  List.decidableBAll (fun c : Char => c.toNat < 128) text.toList

/-- The second character is the first in some case. -/
def IsRecased (c d : Char) : Prop :=
  d.toNat < 128 ∧ small d = small c ∧ Http.isTokenChar d = Http.isTokenChar c

instance (c d : Char) : Decidable (IsRecased c d) := by
  unfold IsRecased
  infer_instance

private theorem cased_small_ascii : ∀ capital : Bool, ∀ n < 128, ∃ d,
    cased capital (Char.ofNat n) = [d] ∧ cased capital (small (Char.ofNat n)) = [d] ∧
      IsRecased (Char.ofNat n) d ∧ IsRecased (Char.ofNat n) (small (Char.ofNat n)) ∧
      (small (Char.ofNat n) = '-' ↔ Char.ofNat n = '-') := by
  intro capital n h
  refine ⟨(cased capital (Char.ofNat n)).head!, ?_⟩
  revert capital n
  decide +kernel

theorem cased_small (capital : Bool) {c : Char} (h : c.toNat < 128) : ∃ d,
    cased capital c = [d] ∧ cased capital (small c) = [d] ∧ IsRecased c d ∧
      IsRecased c (small c) ∧ (small c = '-' ↔ c = '-') := by
  have := cased_small_ascii capital c.toNat h
  rwa [Char.ofNat_toNat] at this

/-! ## Names that differ in case -/

/-- The second name is the first with some letters in another case. -/
def AreRecased (name other : String) : Prop := List.Forall₂ IsRecased name.toList other.toList

namespace AreRecased

variable {name other : String}

theorem isAscii (recased : AreRecased name other) : IsAscii other := by
  intro d hd
  obtain ⟨c, -, same⟩ := exists_of_forall₂ recased.flip hd
  exact same.1

theorem asciiLower_eq (recased : AreRecased name other) : asciiLower other = asciiLower name := by
  apply String.toList_injective
  rw [toList_asciiLower, toList_asciiLower, ← List.forall₂_eq_eq_eq, List.forall₂_map_left_iff,
    List.forall₂_map_right_iff]
  exact recased.flip.imp fun _ _ same => same.2.1

theorem length_eq (recased : AreRecased name other) : other.length = name.length := by
  rw [← String.length_toList, ← String.length_toList, List.Forall₂.length_eq recased]

theorem isTokenChar (recased : AreRecased name other)
    (token : ∀ c ∈ name.toList, Http.isTokenChar c = true) :
    ∀ c ∈ other.toList, Http.isTokenChar c = true := by
  intro d hd
  obtain ⟨c, hc, same⟩ := exists_of_forall₂ recased.flip hd
  rw [same.2.2]
  exact token c hc

end AreRecased

theorem areRecased_asciiLower {name : String} (ascii : IsAscii name) :
    AreRecased name (asciiLower name) := by
  rw [AreRecased, toList_asciiLower, List.forall₂_map_right_iff, List.forall₂_same]
  intro c hc
  obtain ⟨-, -, -, -, recased, -⟩ := cased_small true (ascii c hc)
  exact recased

end Text

namespace Headers

open Text

variable {name first second : String} {text : List Char}

private theorem forall₂_canonical (capital : Bool) (ascii : ∀ c ∈ text, c.toNat < 128) :
    List.Forall₂ IsRecased text (canonical capital text) := by
  induction text generalizing capital with
  | nil => exact .nil
  | cons c rest ih =>
      obtain ⟨here, further⟩ := List.forall_mem_cons.mp ascii
      obtain ⟨d, image, -, recased, -, -⟩ := cased_small capital here
      rw [canonical_cons, image]
      exact .cons recased (ih _ further)

theorem areRecased_canonicalName (ascii : IsAscii name) : AreRecased name (canonicalName name) := by
  rw [AreRecased, canonicalName, String.toList_ofList]
  exact forall₂_canonical true ascii

private theorem canonical_map_small (capital : Bool) (ascii : ∀ c ∈ text, c.toNat < 128) :
    canonical capital (text.map small) = canonical capital text := by
  induction text generalizing capital with
  | nil => rfl
  | cons c rest ih =>
      obtain ⟨here, further⟩ := List.forall_mem_cons.mp ascii
      obtain ⟨d, image, again, -, -, dash⟩ := cased_small capital here
      rw [List.map_cons, canonical_cons, canonical_cons, image, again, ih _ further]
      simp only [dash]

theorem canonicalName_asciiLower (ascii : IsAscii name) :
    canonicalName (asciiLower name) = canonicalName name := by
  rw [canonicalName, canonicalName, toList_asciiLower, canonical_map_small true ascii]

theorem canonicalName_eq_iff (ascii : IsAscii first) (other : IsAscii second) :
    canonicalName first = canonicalName second ↔ asciiLower first = asciiLower second := by
  constructor
  · intro h
    rw [← (areRecased_canonicalName ascii).asciiLower_eq, h,
      (areRecased_canonicalName other).asciiLower_eq]
  · intro h
    rw [← canonicalName_asciiLower ascii, h, canonicalName_asciiLower other]

theorem canonicalName_canonicalName (ascii : IsAscii name) :
    canonicalName (canonicalName name) = canonicalName name := by
  have recased := areRecased_canonicalName ascii
  rw [canonicalName_eq_iff recased.isAscii ascii]
  exact recased.asciiLower_eq

end Headers

namespace Http

/-! ## Names on the wire -/

open Text

private theorem ascii_of_isTokenChar {c : Char} (h : isTokenChar c = true) : c.toNat < 128 := by
  simp only [isTokenChar, Bool.or_eq_true, List.contains_iff_mem] at h
  rcases h with letter | mark
  · exact ascii_of_isAlphanum letter
  · have marks : ("!#$%&'*+-.^_|~\x60".toList.all fun c => c.toNat < 128) = true := by decide
    exact of_decide_eq_true (List.all_eq_true.mp marks c mark)

/-- A token that is neither empty nor too long. -/
structure IsFieldName (name : String) : Prop where
  nonempty : name ≠ ""
  short : name.length ≤ maxNameLength
  token : ∀ c ∈ name.toList, isTokenChar c = true

theorem IsFieldName.isAscii {name : String} (h : IsFieldName name) : IsAscii name :=
  fun c hc => ascii_of_isTokenChar (h.token c hc)

theorem fieldName?_eq_some_iff {name wire : String} :
    fieldName? name = some wire ↔ IsFieldName name ∧ asciiLower name = wire := by
  simp only [fieldName?]
  split
  · next refused =>
    refine iff_of_false nofun ?_
    rintro ⟨⟨nonempty, short, token⟩, -⟩
    simp only [Bool.or_eq_true, List.isEmpty_iff, String.toList_eq_nil_iff, decide_eq_true_eq,
      Bool.not_eq_true', List.all_eq_false, String.length_toList] at refused
    rcases refused with (empty | long) | ⟨c, hc, other⟩
    · exact nonempty empty
    · omega
    · exact other (token c hc)
  · next kept =>
    simp only [Bool.or_eq_true, List.isEmpty_iff, String.toList_eq_nil_iff, decide_eq_true_eq,
      Bool.not_eq_true', not_or, Bool.not_eq_false, List.all_eq_true, String.length_toList,
      Nat.not_lt] at kept
    obtain ⟨⟨nonempty, short⟩, token⟩ := kept
    rw [Option.some.injEq]
    exact ⟨fun h => ⟨⟨nonempty, short, token⟩, h⟩, And.right⟩

theorem IsFieldName.of_areRecased {name other : String} (h : IsFieldName name)
    (recased : AreRecased name other) : IsFieldName other where
  nonempty empty := by
    have length := recased.length_eq
    rw [empty] at length
    exact h.nonempty (String.length_eq_zero_iff.mp length.symm)
  short := recased.length_eq ▸ h.short
  token := recased.isTokenChar h.token

/-- Every field has a name that can stand on the wire, in small letters. -/
def Fields.AreNamed (fields : Fields) : Prop := ∀ name ∈ fields.keys, fieldName? name = some name

theorem Fields.AreNamed.asciiLower_eq_of_mem {fields : Fields} (named : fields.AreNamed)
    {name : String} (h : name ∈ fields.keys) : IsAscii name ∧ asciiLower name = name :=
  (fieldName?_eq_some_iff.mp (named name h)).imp_left IsFieldName.isAscii

end Http

end ObjectStorage
