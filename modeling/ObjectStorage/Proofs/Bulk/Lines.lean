import ObjectStorage.Bulk.Delete
import ObjectStorage.Proofs.Address.Names

/-!
# Lines of a bulk deletion

What is to be deleted is written one path to a line, and the lines are cut into batches.  Decoding a
line gives the names back, and no name puts a line break into it.
-/

namespace ObjectStorage.Account

/-! ## Batches -/

section

variable {α : Type}

theorem batches_cons (size : Nat) (first : α) (rest : List α) :
    batches size (first :: rest) =
      (first :: rest).take (max 1 size) :: batches size ((first :: rest).drop (max 1 size)) := by
  have positive : max 1 size = (size - 1) + 1 := by omega
  rw [batches, positive, List.take_succ_cons, List.drop_succ_cons]

theorem length_of_mem_batches (size : Nat) (list : List α) :
    ∀ batch ∈ batches size list, 1 ≤ batch.length ∧ batch.length ≤ max 1 size := by
  induction list using batches.induct size with
  | case1 => simp [batches]
  | case2 first rest ih =>
      intro batch hbatch
      rw [batches] at hbatch
      rcases List.mem_cons.mp hbatch with rfl | hbatch
      · simp only [List.length_cons, List.length_take]
        omega
      · exact ih batch hbatch

theorem flatten_batches (size : Nat) (list : List α) : (batches size list).flatten = list := by
  induction list using batches.induct size with
  | case1 => simp [batches]
  | case2 first rest ih => rw [batches, List.flatten_cons, ih, List.cons_append, List.take_append_drop]

theorem flatten_take_batches (size count : Nat) (list : List α) :
    ((batches size list).take count).flatten = list.take (count * max 1 size) := by
  induction count generalizing list with
  | zero => simp
  | succ count ih =>
      cases list with
      | nil => simp [batches]
      | cons first rest =>
          rw [batches_cons, List.take_succ_cons, List.flatten_cons, ih, Nat.succ_mul,
            Nat.add_comm, List.take_add]

theorem lt_length_batches (size count : Nat) (list : List α) :
    count < (batches size list).length ↔ count * max 1 size < list.length := by
  induction count generalizing list with
  | zero =>
      cases list with
      | nil => simp [batches]
      | cons first rest => simp [batches]
  | succ count ih =>
      cases list with
      | nil => simp [batches]
      | cons first rest =>
          rw [batches_cons, List.length_cons, Nat.add_lt_add_iff_right, ih, List.length_drop,
            Nat.succ_mul]
          omega

theorem length_of_mem_dropLast (size : Nat) (list : List α) :
    ∀ batch ∈ (batches size list).dropLast, batch.length = max 1 size := by
  induction list using batches.induct size with
  | case1 => simp [batches]
  | case2 first rest ih =>
      intro batch hbatch
      rw [batches] at hbatch
      cases next : batches size (rest.drop (size - 1)) with
      | nil => simp [next] at hbatch
      | cons second others =>
          rw [next, List.dropLast_cons_cons, ← next] at hbatch
          rcases List.mem_cons.mp hbatch with rfl | hbatch
          · -- A batch that another one follows leaves something of the list.
            have more : rest.drop (size - 1) ≠ [] := by
              intro nothing
              rw [nothing, batches] at next
              exact nomatch next
            have long := List.length_pos_iff.mpr more
            simp only [List.length_drop] at long
            simp only [List.length_cons, List.length_take]
            omega
          · exact ih batch hbatch

end

/-! ## Lines -/

def Doomed.name (doomed : Doomed) : String := "/" ++ doomed.text

def Doomed.line (doomed : Doomed) : String := Address.path doomed.container doomed.object

theorem decode?_line (doomed : Doomed) : Percent.decode? doomed.line = some doomed.name := by
  have names : Address.joined doomed.container doomed.object = doomed.text := by
    unfold Address.joined Doomed.text
    cases doomed.object <;> rfl
  rw [Doomed.line, Address.decode?_path, Doomed.name, names]

theorem not_mem_line (doomed : Doomed) : '\n' ∉ doomed.line.toList := by
  intro h
  rw [Doomed.line, Address.toList_path, Url.pathChars] at h
  obtain ⟨segment, hsegment, hc⟩ := List.mem_flatMap.mp h
  rcases List.mem_cons.mp hc with hslash | hc
  · exact absurd hslash (by decide)
  · obtain ⟨piece, -, rfl⟩ := List.mem_map.mp hsegment
    exact absurd (Address.isPlain_of_mem_segment hc) (by decide +kernel)

/-! ## Paths -/

/-- What may be deleted through the account: it is of it by name, and the names are proper. -/
def Doomed.IsOf (doomed : Doomed) (account : String) : Prop :=
  doomed.account = account ∧ Address.check doomed.container doomed.object = .ok ()

theorem mapM_path {all : List Doomed}
    (proper : ∀ doomed ∈ all, Address.check doomed.container doomed.object = .ok ()) :
    all.mapM Doomed.path = .ok (all.map Doomed.line) := by
  induction all with
  | nil => rfl
  | cons first rest ih =>
      have checked : first.path = .ok first.line := by
        rw [Doomed.path, proper first List.mem_cons_self]
        rfl
      rw [List.mapM_cons, checked, ih fun doomed h => proper doomed (List.mem_cons_of_mem _ h)]
      rfl

theorem paths_of_isOf {account : String} {all : List Doomed}
    (h : ∀ doomed ∈ all, doomed.IsOf account) :
    paths account all = .ok (all.map Doomed.line) := by
  have own : all.find? (fun doomed => doomed.account ≠ account) = none := by
    rw [List.find?_eq_none]
    intro doomed hdoomed
    simp [(h doomed hdoomed).1]
  rw [paths, own]
  exact mapM_path fun doomed hdoomed => (h doomed hdoomed).2

theorem isOf_of_paths {account : String} {all : List Doomed} {lines : List String}
    (h : paths account all = .ok lines) :
    (∀ doomed ∈ all, doomed.IsOf account) ∧ lines = all.map Doomed.line := by
  unfold paths at h
  split at h
  · exact nomatch h
  next own =>
  rw [List.find?_eq_none] at own
  have proper : ∀ doomed ∈ all, Address.check doomed.container doomed.object = .ok () := by
    clear own
    induction all generalizing lines with
    | nil => exact fun doomed hdoomed => nomatch hdoomed
    | cons first rest ih =>
        rw [List.mapM_cons] at h
        obtain ⟨line, hfirst, h⟩ := ok_of_bind h
        obtain ⟨others, hrest, -⟩ := ok_of_bind h
        obtain ⟨checked, hcheck, -⟩ := ok_of_bind hfirst
        intro doomed hdoomed
        rcases List.mem_cons.mp hdoomed with rfl | hdoomed
        · exact hcheck
        · exact ih hrest doomed hdoomed
  rw [mapM_path proper] at h
  refine ⟨fun doomed hdoomed => ⟨?_, proper doomed hdoomed⟩, (Except.ok.inj h).symm⟩
  simpa using own doomed hdoomed

end ObjectStorage.Account
