import ObjectStorage.Proofs.Cache.Handles

/-!
# Dispatched requests

A transport may send more than it is given: a request again, or one for a token.  Recorded, it keeps
for each request that it is given all that was sent for it.  What a request keeps to, after all that
was sent before it, is kept to over whole runs if some invariant carries it.
-/

namespace ObjectStorage

variable {σ τ : Type}

/-- A request given to a transport, with all that was sent for it and what came of it. -/
structure Dispatch where
  request : Http.Request
  sends : Sends
  exchange : Exchange

/-- The transport, with a record of its dispatches in the place of its observations. -/
def Transport.recorded (transport : Transport (τ × List Observation × σ)) :
    Transport (List Dispatch × τ × σ) where
  send request := fun (log, first, state) =>
    let (exchange, (first, events, state)) := transport.send request (first, [], state)
    (exchange, (log ++ [⟨request, Observation.sends events, exchange⟩], first, state))

theorem Transport.Answers.of_observed {transport : Transport σ} {sends : Sends}
    {events : List Observation} {state : σ} {reached : List Observation × σ}
    (h : transport.observed.Answers sends (events, state) reached) :
    ∃ new last, reached = (events ++ new, last) ∧ Observation.sends new = sends := by
  induction sends generalizing events state with
  | nil => exact ⟨[], state, by rw [List.append_nil]; exact h, rfl⟩
  | cons send rest ih =>
      obtain ⟨next, sent, answers⟩ := h
      obtain ⟨last, -, rfl⟩ := Transport.of_observed sent
      obtain ⟨new, final, rfl, hrest⟩ := ih answers
      refine ⟨.send send.1 send.2 :: new, final, by simp, ?_⟩
      rw [← hrest]
      rfl

/-! ## Elements with what comes before them -/

section

variable {α : Type} {P : List α → α → Prop}

theorem forall_split_nil :
    (∀ earlier element later, [] = earlier ++ element :: later → P earlier element) ↔ True :=
  iff_true_intro fun _ _ _ split => by simp at split

theorem forall_split_cons {first : α} {rest : List α} :
    (∀ earlier element later, first :: rest = earlier ++ element :: later → P earlier element) ↔
      P [] first ∧ ∀ earlier element later, rest = earlier ++ element :: later →
        P (first :: earlier) element := by
  constructor
  · intro all
    exact ⟨all [] first rest rfl, fun earlier element later split =>
      all (first :: earlier) element later (congrArg _ split)⟩
  · rintro ⟨head, tail⟩ earlier element later split
    cases earlier with
    | nil =>
        cases split
        exact head
    | cons other earlier =>
        cases split
        exact tail earlier element later rfl

end

/-! ## Runs -/

/--
Whether, after all that was sent before, the transport dispatches every request as `Keeps` says
and leaves behind what `Holds` says of the first part of the state.
-/
def Dispatches (transport : Transport (τ × List Observation × σ)) (Holds : Sends → τ → Prop)
    (Keeps : Sends → Dispatch → Prop) : Prop :=
  ∀ before first request state, Holds before first → ∃ exchange next events last,
    transport.send request (first, [], state) = (exchange, (next, events, last)) ∧
    Keeps before ⟨request, Observation.sends events, exchange⟩ ∧
    Holds (before ++ Observation.sends events) next

/-- Whether every dispatch of the log is as it has to be after all that was sent before it. -/
def KeepsThroughout (Keeps : Sends → Dispatch → Prop) (before : Sends) (log : List Dispatch) :
    Prop :=
  ∀ earlier dispatch later, log = earlier ++ dispatch :: later →
    Keeps (before ++ earlier.flatMap Dispatch.sends) dispatch

theorem KeepsThroughout.cons {Keeps : Sends → Dispatch → Prop} {before : Sends}
    {dispatch : Dispatch} {log : List Dispatch} (first : Keeps before dispatch)
    (rest : KeepsThroughout Keeps (before ++ dispatch.sends) log) :
    KeepsThroughout Keeps before (dispatch :: log) := by
  refine forall_split_cons.mpr ⟨?_, ?_⟩
  · rwa [List.flatMap_nil, List.append_nil]
  · intro earlier other later split
    rw [List.flatMap_cons, ← List.append_assoc]
    exact rest earlier other later split

theorem Dispatches.keepsThroughout_of_answers {transport : Transport (τ × List Observation × σ)}
    {Holds : Sends → τ → Prop} {Keeps : Sends → Dispatch → Prop}
    (dispatches : Dispatches transport Holds Keeps) {answered : Sends} {log : List Dispatch}
    {before : Sends} {first : τ} {state : σ} {reached : List Dispatch × τ × σ}
    (answers : transport.recorded.Answers answered (log, first, state) reached)
    (holds : Holds before first) :
    ∃ new next last, reached = (log ++ new, next, last) ∧
      new.map (fun dispatch => (dispatch.request, dispatch.exchange)) = answered ∧
      KeepsThroughout Keeps before new ∧ Holds (before ++ new.flatMap Dispatch.sends) next := by
  induction answered generalizing log before first state with
  | nil =>
      refine ⟨[], first, state, by rw [List.append_nil]; exact answers, rfl,
        forall_split_nil.mpr trivial, ?_⟩
      rwa [List.flatMap_nil, List.append_nil]
  | cons send rest ih =>
      obtain ⟨middle, sent, answers⟩ := answers
      obtain ⟨exchange, next, events, last, run, keeps, holds⟩ :=
        dispatches before first send.1 state holds
      simp only [Transport.recorded, run] at sent
      cases sent
      obtain ⟨new, final, left, rfl, hrest, throughout, holds⟩ := ih answers holds
      refine ⟨_ :: new, final, left, by simp, by simp [hrest], .cons keeps throughout, ?_⟩
      rwa [List.flatMap_cons, ← List.append_assoc]

end ObjectStorage
