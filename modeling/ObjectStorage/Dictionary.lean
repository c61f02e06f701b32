/-!
# Dictionaries

Finite maps from text to values, kept as the list of their entries in strictly increasing order of
the keys.  The order makes the representation unique: two dictionaries with the same look-ups are
equal, and listing the entries needs no further sorting.
-/

namespace ObjectStorage

structure Dictionary (α : Type) where
  entries : List (String × α)
  sorted : entries.Pairwise fun first second => first.1 < second.1

namespace Dictionary

variable {α : Type}

deriving instance DecidableEq for Dictionary

/-! ## Entry lists -/

/-- Puts an entry at its place; an entry that had the same key is replaced. -/
def insertEntry (key : String) (value : α) : List (String × α) → List (String × α)
  | [] => [(key, value)]
  | (other, held) :: rest =>
      if key < other then (key, value) :: (other, held) :: rest
      else if key = other then (key, value) :: rest
      else (other, held) :: insertEntry key value rest

theorem mem_insertEntry {key : String} {value : α} {entries : List (String × α)}
    {entry : String × α} (h : entry ∈ insertEntry key value entries) :
    entry = (key, value) ∨ entry ∈ entries := by
  induction entries with
  | nil => simpa [insertEntry] using h
  | cons first rest ih =>
      obtain ⟨other, held⟩ := first
      simp only [insertEntry] at h
      split at h
      · simpa using h
      split at h
      · rcases List.mem_cons.mp h with h | h
        · exact .inl h
        · exact .inr (List.mem_cons_of_mem _ h)
      · rcases List.mem_cons.mp h with h | h
        · exact .inr (h ▸ List.mem_cons_self)
        · exact (ih h).imp id (List.mem_cons_of_mem _)

theorem insertEntry_sorted (key : String) (value : α) {entries : List (String × α)}
    (h : entries.Pairwise fun first second => first.1 < second.1) :
    (insertEntry key value entries).Pairwise fun first second => first.1 < second.1 := by
  induction entries with
  | nil => simp [insertEntry]
  | cons first rest ih =>
      obtain ⟨other, held⟩ := first
      rw [List.pairwise_cons] at h
      simp only [insertEntry]
      split
      · next hlt =>
        refine List.pairwise_cons.mpr ⟨fun entry hentry => ?_, List.pairwise_cons.mpr h⟩
        rcases List.mem_cons.mp hentry with rfl | hentry
        · exact hlt
        · exact String.lt_trans hlt (h.1 entry hentry)
      split
      · next heq => exact List.pairwise_cons.mpr ⟨heq ▸ h.1, h.2⟩
      · next hlt hne =>
        refine List.pairwise_cons.mpr ⟨fun entry hentry => ?_, ih h.2⟩
        rcases mem_insertEntry hentry with rfl | hentry
        · rcases Std.lt_trichotomy key other with hlt' | heq | hgt
          · exact absurd hlt' hlt
          · exact absurd heq hne
          · exact hgt
        · exact h.1 entry hentry

theorem lookup_cons_ite (key wanted : String) (value : α) (rest : List (String × α)) :
    ((key, value) :: rest).lookup wanted =
      if wanted = key then some value else rest.lookup wanted := by
  by_cases h : wanted = key
  · simp [h]
  · simp [List.lookup_cons, h, beq_eq_false_iff_ne.mpr h]

theorem lookup_of_not_mem {key : String} {entries : List (String × α)}
    (absent : key ∉ entries.map (·.1)) : entries.lookup key = none := by
  rw [List.lookup_eq_none_iff]
  intro entry among
  rw [bne_iff_ne]
  rintro rfl
  exact absent (List.mem_map_of_mem among)

theorem lookup_insertEntry (key wanted : String) (value : α) (entries : List (String × α)) :
    (insertEntry key value entries).lookup wanted =
      if wanted = key then some value else entries.lookup wanted := by
  induction entries with
  | nil => simp only [insertEntry, lookup_cons_ite]
  | cons first rest ih =>
      obtain ⟨other, held⟩ := first
      simp only [insertEntry]
      split
      · simp only [lookup_cons_ite]
      split
      · next heq =>
        subst heq
        simp only [lookup_cons_ite]
        split <;> rfl
      · next hne =>
        simp only [lookup_cons_ite, ih]
        by_cases ho : wanted = other
        · subst ho
          simp [Ne.symm hne]
        · simp [ho]

/-! ## Operations -/

def empty : Dictionary α := ⟨[], .nil⟩

instance : EmptyCollection (Dictionary α) := ⟨empty⟩

instance : Inhabited (Dictionary α) := ⟨empty⟩

def get? (dictionary : Dictionary α) (key : String) : Option α :=
  dictionary.entries.lookup key

def contains (dictionary : Dictionary α) (key : String) : Bool :=
  (dictionary.get? key).isSome

def insert (dictionary : Dictionary α) (key : String) (value : α) : Dictionary α :=
  ⟨insertEntry key value dictionary.entries, insertEntry_sorted key value dictionary.sorted⟩

def erase (dictionary : Dictionary α) (key : String) : Dictionary α :=
  ⟨dictionary.entries.filter fun entry => entry.1 != key, dictionary.sorted.filter _⟩

def size (dictionary : Dictionary α) : Nat := dictionary.entries.length

def isEmpty (dictionary : Dictionary α) : Bool := dictionary.entries.isEmpty

def keys (dictionary : Dictionary α) : List String := dictionary.entries.map (·.1)

def toList (dictionary : Dictionary α) : List (String × α) := dictionary.entries

/-- Inserts every entry of the list in turn, so that the last one of a key stays. -/
def insertAll (dictionary : Dictionary α) (entries : List (String × α)) : Dictionary α :=
  entries.foldl (fun dictionary entry => dictionary.insert entry.1 entry.2) dictionary

def ofList (entries : List (String × α)) : Dictionary α := empty.insertAll entries

/-! ## Keys after each operation -/

theorem mem_keys_insert {dictionary : Dictionary α} {key other : String} {value : α}
    (h : other ∈ (dictionary.insert key value).keys) : other = key ∨ other ∈ dictionary.keys := by
  obtain ⟨entry, hentry, rfl⟩ := List.mem_map.mp h
  rcases mem_insertEntry hentry with rfl | hentry
  · exact .inl rfl
  · exact .inr (List.mem_map_of_mem hentry)

theorem mem_keys_erase {dictionary : Dictionary α} {key other : String}
    (h : other ∈ (dictionary.erase key).keys) : other ∈ dictionary.keys := by
  obtain ⟨entry, hentry, rfl⟩ := List.mem_map.mp h
  exact List.mem_map_of_mem (List.mem_filter.mp hentry).1

theorem mem_keys_insertAll {dictionary : Dictionary α} {entries : List (String × α)}
    {other : String} (h : other ∈ (dictionary.insertAll entries).keys) :
    other ∈ entries.map (·.1) ∨ other ∈ dictionary.keys := by
  induction entries generalizing dictionary with
  | nil => exact .inr h
  | cons entry rest ih =>
      rcases ih h with hrest | hinsert
      · exact .inl (List.mem_cons_of_mem _ hrest)
      rcases mem_keys_insert hinsert with rfl | hkeys
      · exact .inl List.mem_cons_self
      · exact .inr hkeys

/-! ## Look-ups after each operation -/

@[simp] theorem get?_empty (key : String) : (empty : Dictionary α).get? key = none := rfl

theorem get?_insert (dictionary : Dictionary α) (key wanted : String) (value : α) :
    (dictionary.insert key value).get? wanted =
      if wanted = key then some value else dictionary.get? wanted :=
  lookup_insertEntry key wanted value dictionary.entries

@[simp] theorem get?_insert_self (dictionary : Dictionary α) (key : String) (value : α) :
    (dictionary.insert key value).get? key = some value := by
  simp [get?_insert]

@[simp] theorem isEmpty_insert (dictionary : Dictionary α) (key : String) (value : α) :
    (dictionary.insert key value).isEmpty = false := by
  have held := get?_insert_self dictionary key value
  unfold isEmpty
  cases entries : (dictionary.insert key value).entries with
  | nil => simp [get?, entries] at held
  | cons entry rest => rfl

theorem lookup_filter_ne (key wanted : String) (entries : List (String × α)) :
    (entries.filter fun entry => entry.1 != key).lookup wanted =
      if wanted = key then none else entries.lookup wanted := by
  induction entries with
  | nil => simp
  | cons first rest ih =>
      obtain ⟨other, held⟩ := first
      by_cases hk : other = key
      · subst hk
        simp only [bne_self_eq_false, Bool.false_eq_true, not_false_eq_true,
          List.filter_cons_of_neg, ih]
        by_cases hw : wanted = other <;> simp [hw, lookup_cons_ite]
      · rw [List.filter_cons_of_pos (by simpa using hk), lookup_cons_ite, lookup_cons_ite, ih]
        by_cases hw : wanted = other
        · subst hw
          simp [hk]
        · simp [hw]

theorem get?_erase (dictionary : Dictionary α) (key wanted : String) :
    (dictionary.erase key).get? wanted = if wanted = key then none else dictionary.get? wanted :=
  lookup_filter_ne key wanted dictionary.entries

@[simp] theorem get?_erase_self (dictionary : Dictionary α) (key : String) :
    (dictionary.erase key).get? key = none := by
  simp [get?_erase]

end Dictionary

end ObjectStorage
