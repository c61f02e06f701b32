/-!
# Runs of calls

Calls are made one after the other, and of each what came of it is kept.  What one call does is a
step between views of the state; what a run does is a path of such steps.
-/

namespace ObjectStorage

universe u

variable {κ : Type u} {σ τ α : Type}

/-- Steps that follow on each other, by what came of each. -/
inductive Path (Step : α → τ → α → Prop) : α → List τ → α → Prop
  | refl (view : α) : Path Step view [] view
  | next {first second third : α} {turn : τ} {run : List τ}
      (step : Step first turn second) (path : Path Step second run third) :
      Path Step first (turn :: run) third

namespace Path

variable {Step : α → τ → α → Prop} {first second third : α} {turn : τ} {run before after : List τ}

theorem exists_middle (path : Path Step first (before ++ after) third) :
    ∃ second, Path Step first before second ∧ Path Step second after third := by
  induction before generalizing first with
  | nil => exact ⟨first, .refl first, path⟩
  | cons turn before ih =>
      cases path with
      | next step path =>
          obtain ⟨second, front, back⟩ := ih path
          exact ⟨second, .next step front, back⟩

theorem split_at (path : Path Step first (before ++ turn :: after) third) :
    ∃ second next, Path Step first before second ∧ Step second turn next ∧
      Path Step next after third := by
  obtain ⟨second, front, back⟩ := path.exists_middle
  cases back with
  | next step back => exact ⟨second, _, front, step, back⟩

end Path

/-- If each call is a step between views that fit the states, the calls are a path. -/
theorem path_of_turns {turn : κ → StateM σ τ} {Fits : σ → α → Prop} {Step : α → τ → α → Prop}
    (calls : List κ) (step : ∀ call ∈ calls, ∀ state view, Fits state view →
      ∃ next, Step view (turn call state).1 next ∧ Fits (turn call state).2 next)
    {state : σ} {view : α} (fits : Fits state view) :
    ∃ last, Path Step view (calls.mapM turn state).1 last ∧ Fits (calls.mapM turn state).2 last := by
  induction calls generalizing state view with
  | nil => exact ⟨view, .refl view, fits⟩
  | cons call calls ih =>
      obtain ⟨first, others⟩ := List.forall_mem_cons.mp step
      obtain ⟨next, taken, fits⟩ := first state view fits
      obtain ⟨last, path, fits⟩ := ih others fits
      rw [List.mapM_cons]
      exact ⟨last, .next taken path, fits⟩

theorem path_of_views {turn : κ → StateM σ τ} {view : σ → α} {Step : α → τ → α → Prop}
    (step : ∀ call state, Step (view state) (turn call state).1 (view (turn call state).2))
    (calls : List κ) (state : σ) :
    Path Step (view state) (calls.mapM turn state).1 (view (calls.mapM turn state).2) := by
  have follow : ∀ call ∈ calls, ∀ state seen, view state = seen →
      ∃ next, Step seen (turn call state).1 next ∧ view (turn call state).2 = next := by
    rintro call - state seen rfl
    exact ⟨_, step call state, rfl⟩
  obtain ⟨last, path, rfl⟩ := path_of_turns calls follow rfl
  exact path

theorem calls_of_turns {turn : κ → StateM σ τ} {call : τ → κ}
    (same : ∀ asked state, call (turn asked state).1 = asked) (calls : List κ) (state : σ) :
    (calls.mapM turn state).1.map call = calls := by
  induction calls generalizing state with
  | nil => rfl
  | cons asked calls ih =>
      rw [List.mapM_cons]
      exact List.cons_eq_cons.mpr ⟨same asked state, ih (turn asked state).2⟩

end ObjectStorage
