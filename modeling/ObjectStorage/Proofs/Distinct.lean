import Mathlib.Data.List.Nodup
import ObjectStorage.Dictionary

/-!
# Dictionaries of distinct keys

The keys of a dictionary are distinct, so that its entries and its look-ups determine each other.
Entries with distinct keys do not replace each other when they are inserted, so that a dictionary
of them is these entries in another order.
-/

namespace ObjectStorage.Dictionary

variable {α : Type} {dictionary : Dictionary α} {entries : List (String × α)} {key : String}
  {value : α}

theorem nodup_keys (dictionary : Dictionary α) : dictionary.keys.Nodup := by
  rw [keys, List.Nodup, List.pairwise_map]
  refine dictionary.sorted.imp ?_
  intro first second before same
  rw [same] at before
  exact String.lt_irrefl _ before

theorem nodup_toList (dictionary : Dictionary α) : dictionary.toList.Nodup :=
  dictionary.nodup_keys.of_map _

theorem eq_of_key_eq {first second : String × α} (hfirst : first ∈ dictionary.toList)
    (hsecond : second ∈ dictionary.toList) (same : first.1 = second.1) : first = second :=
  List.inj_on_of_nodup_map dictionary.nodup_keys hfirst hsecond same

theorem lookup_eq_some_iff (distinct : (entries.map (·.1)).Nodup) :
    entries.lookup key = some value ↔ (key, value) ∈ entries := by
  induction entries with
  | nil => simp
  | cons first rest ih =>
      obtain ⟨other, held⟩ := first
      rw [List.map_cons, List.nodup_cons] at distinct
      rw [lookup_cons_ite, List.mem_cons, Prod.mk.injEq]
      by_cases same : key = other
      · subst same
        have absent : (key, value) ∉ rest := fun h =>
          distinct.1 (List.mem_map.mpr ⟨(key, value), h, rfl⟩)
        simp [absent, eq_comm]
      · simp [same, ih distinct.2]

theorem get?_eq_some_iff (dictionary : Dictionary α) (key : String) (value : α) :
    dictionary.get? key = some value ↔ (key, value) ∈ dictionary.toList :=
  lookup_eq_some_iff dictionary.nodup_keys

theorem get?_insertAll (dictionary : Dictionary α) (distinct : (entries.map (·.1)).Nodup)
    (wanted : String) :
    (dictionary.insertAll entries).get? wanted =
      (entries.lookup wanted).or (dictionary.get? wanted) := by
  induction entries generalizing dictionary with
  | nil => rfl
  | cons first rest ih =>
      obtain ⟨key, value⟩ := first
      rw [List.map_cons, List.nodup_cons] at distinct
      rw [insertAll, List.foldl_cons, ← insertAll, ih _ distinct.2, get?_insert, lookup_cons_ite]
      split
      · next same =>
        subst same
        rw [lookup_of_not_mem distinct.1]
        rfl
      · rfl

theorem mem_toList_ofList (distinct : (entries.map (·.1)).Nodup) {entry : String × α} :
    entry ∈ (ofList entries).toList ↔ entry ∈ entries := by
  rw [← get?_eq_some_iff, ofList, get?_insertAll _ distinct, get?_empty, Option.or_none,
    lookup_eq_some_iff distinct]

theorem toList_ofList_perm (distinct : (entries.map (·.1)).Nodup) :
    (ofList entries).toList.Perm entries := by
  rw [List.perm_ext_iff_of_nodup (nodup_toList _) (distinct.of_map _)]
  intro entry
  exact mem_toList_ofList distinct

theorem ext_mem {first second : Dictionary α}
    (h : ∀ entry, entry ∈ first.toList ↔ entry ∈ second.toList) : first = second := by
  have same := (List.perm_ext_iff_of_nodup first.nodup_toList second.nodup_toList).mpr h
  have entries : first.entries = second.entries :=
    same.eq_of_pairwise (fun _ _ _ _ before after => absurd after (String.lt_asymm before))
      first.sorted second.sorted
  cases first
  cases second
  cases entries
  rfl

theorem ext_get? {first second : Dictionary α} (h : ∀ key, first.get? key = second.get? key) :
    first = second := by
  apply ext_mem
  rintro ⟨key, value⟩
  rw [← get?_eq_some_iff, ← get?_eq_some_iff, h]

end ObjectStorage.Dictionary
