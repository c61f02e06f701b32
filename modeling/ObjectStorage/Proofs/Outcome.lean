import Mathlib.Data.List.Forall2
import ObjectStorage.Transport

/-!
# Results and runs

Taking computations that may fail apart into their steps.
-/

namespace ObjectStorage

theorem ok_of_bind {ε α β : Type} {first : Except ε α} {next : α → Except ε β} {result : β}
    (h : first >>= next = .ok result) : ∃ value, first = .ok value ∧ next value = .ok result := by
  cases first with
  | error fault => exact nomatch h
  | ok value => exact ⟨value, rfl, h⟩

theorem error_of_bind {ε α β : Type} {first : Except ε α} {next : α → Except ε β} {fault : ε}
    (h : first >>= next = .error fault) :
    first = .error fault ∨ ∃ value, first = .ok value ∧ next value = .error fault := by
  cases first with
  | error other =>
      cases h
      exact .inl rfl
  | ok value => exact .inr ⟨value, rfl, h⟩

theorem bind_ok_error_iff {ε α β : Type} {first : Except ε α} {change : α → β} {fault : ε} :
    (first >>= fun value => .ok (change value)) = .error fault ↔ first = .error fault := by
  cases first with
  | error other =>
      constructor <;>
      · rintro ⟨⟩
        rfl
  | ok value => exact iff_of_false nofun nofun

theorem error_of_mapError {ε ε' α : Type} {result : Except ε α} {change : ε → ε'} {fault : ε'}
    (h : result.mapError change = .error fault) : ∃ cause, fault = change cause := by
  cases result with
  | error cause =>
      cases h
      exact ⟨cause, rfl⟩
  | ok value => cases h

theorem ok_of_unless {ε β : Type} {refused : Prop} [Decidable refused] {fault : ε}
    {next : Except ε β} {result : β}
    (h : (if refused then throw fault >>= fun (_ : PUnit) => next else next) = .ok result) :
    ¬refused ∧ next = .ok result := by
  split at h
  · exact nomatch h
  · next kept => exact ⟨kept, h⟩

theorem exists_of_forall₂ {α β : Type} {R : α → β → Prop} {first : List α} {second : List β}
    (h : List.Forall₂ R first second) {a : α} (ha : a ∈ first) : ∃ b ∈ second, R a b := by
  induction h with
  | nil => exact nomatch ha
  | cons related rest ih =>
      rcases List.mem_cons.mp ha with rfl | ha
      · exact ⟨_, List.mem_cons_self, related⟩
      · obtain ⟨b, hb, related⟩ := ih ha
        exact ⟨b, List.mem_cons_of_mem _ hb, related⟩

end ObjectStorage
