import ObjectStorage.Proofs.Listing.Pages
import ObjectStorage.Proofs.Observed
import ObjectStorage.Proofs.Runs

/-!
# Runs of listings

However the calls for the next page are mixed, the pages are consecutive pieces of the sorted names.
The names that were delivered and those that remain are the progress of a listing; the marker is the
last name of the first part, and an empty page is given only when the second is empty.
-/

namespace ObjectStorage.Listing

variable {kind : Kind} {σ : Type}

/-! ## Calls and turns -/

structure PageCall where
  limit : Option UInt64
  detailed : Bool

def PageCall.IsPositive (call : PageCall) : Prop :=
  ∀ limit, call.limit = some limit → 1 ≤ limit.toNat

/-- What the listed names denote, without the details. -/
def PageCall.page (transport : Transport σ) (call : PageCall) :
    Remote (Listing kind × σ) (List (Handle kind)) :=
  if call.detailed then (fun items => items.map Prod.fst) <$> nextPageDetailed transport call.limit
  else nextPage transport call.limit

structure Turn (kind : Kind) where
  call : PageCall
  result : Except Error (List (Handle kind))
  sends : List (Http.Request × Exchange)

def PageCall.turn (transport : Transport σ) (call : PageCall) :
    StateM (Listing kind × σ) (Turn kind) := fun (listing, state) =>
  let (result, (listing, (events, state))) :=
    (call.page transport.observed).attempt (listing, ([], state))
  (⟨call, result, Observation.sends events⟩, (listing, state))

def delivered (run : List (Turn kind)) : List (Handle kind) :=
  run.flatMap fun turn => turn.result.toOption.getD []

/-! ## Progress -/

structure Progress where
  delivered : List String
  remaining : List String
  /-- Whether an empty page has been given. -/
  ended : Bool

namespace Progress

def marker (progress : Progress) : String := progress.delivered.getLast?.getD ""

def position (progress : Progress) : Position :=
  if progress.ended then .exhausted else .after progress.marker

structure IsOf (names : List String) (listing : Listing kind) (progress : Progress) : Prop where
  split : matching names listing.beginning = progress.delivered ++ progress.remaining
  ended : progress.ended = true → progress.remaining = []

/-- The progress of a listing of which no page has been asked for. -/
def start (names : List String) (listing : Listing kind) : Progress :=
  ⟨[], matching names listing.beginning, false⟩

theorem isOf_start (names : List String) (listing : Listing kind) :
    (start names listing).IsOf names listing :=
  ⟨rfl, nofun⟩

end Progress

/-- What one call does to the progress. -/
inductive Step (listing : Listing kind) : Progress → Turn kind → Progress → Prop
  | ended {progress : Progress} {call : PageCall} (ended : progress.ended = true) :
      Step listing progress ⟨call, .ok [], []⟩ progress
  | refused {progress : Progress} {call : PageCall} {error : Error}
      (going : progress.ended = false)
      (refused : listing.pageMessage progress.marker call.limit call.detailed = .error error) :
      Step listing progress ⟨call, .error error, []⟩ progress
  | answered {delivered page rest : List String} {call : PageCall} {message : Http.Request}
      {response : Http.Response} {pulled : Nat} (last : page = [] → rest = [])
      (answer : IsAnswer listing.scope call.detailed page response) :
      Step listing ⟨delivered, page ++ rest, false⟩
        ⟨call, .ok (page.map listing.handle), [(message, ⟨.ok response, pulled⟩)]⟩
        ⟨delivered ++ page, rest, page.isEmpty⟩

/-- Whether the listing has made this progress; the state of the transport is beside it. -/
structure HasMade (names : List String) (listing : Listing kind) (state : Listing kind × σ)
    (progress : Progress) : Prop where
  valid : progress.IsOf names listing
  position : state.1 = listing.goneTo progress.position

theorem hasMade_start (names : List String) {listing : Listing kind}
    (start : listing.position = .after "") (state : σ) :
    HasMade names listing (listing, state) (.start names listing) where
  valid := Progress.isOf_start names listing
  position := by
    cases listing
    cases start
    rfl

section

variable {transport : Transport σ} {names : List String} {listing : Listing kind}
  {first second : Progress}

theorem Step.isOf_second {turn : Turn kind} (step : Step listing first turn second)
    (valid : first.IsOf names listing) : second.IsOf names listing := by
  cases step with
  | ended => exact valid
  | refused => exact valid
  | answered last =>
      refine ⟨by simpa using valid.split, ?_⟩
      intro hempty
      exact last (List.isEmpty_iff.mp hempty)

theorem isOf_of_path {run : List (Turn kind)} (path : Path (Step listing) first run second)
    (valid : first.IsOf names listing) : second.IsOf names listing := by
  induction path with
  | refl => exact valid
  | next step _ ih => exact ih (step.isOf_second valid)

/-! ## Turns are steps -/

private theorem positionAfter_page (delivered page rest : List String) :
    positionAfter page = Progress.position ⟨delivered ++ page, rest, page.isEmpty⟩ := by
  rcases page.eq_nil_or_concat with rfl | ⟨front, last, rfl⟩
  · rfl
  · rw [List.concat_eq_append]
    simp [positionAfter, Progress.position, Progress.marker, ← List.append_assoc]

private theorem isEmpty_take {remaining : List String} {count : Nat} (h : 1 ≤ count)
    (hempty : remaining.take count = []) : remaining.drop count = [] := by
  rcases List.take_eq_nil_iff.mp hempty with hcount | rfl
  · omega
  · exact List.drop_nil

private theorem one_le_size {limit : Option UInt64} (positive : ∀ l, limit = some l → 1 ≤ l.toNat)
    {cap : Nat} (h : 1 ≤ cap) (marker beginning : String) (detailed : Bool) :
    1 ≤ Question.size ⟨marker, beginning, limit.map UInt64.toNat, detailed⟩ cap := by
  unfold Question.size
  cases limit with
  | none => exact h
  | some limit =>
      have := positive limit rfl
      simp only [Option.map_some]
      omega

/-- A page takes names off the front of those that remain, and none only if there are none. -/
theorem IsPaging.exists_step {α : Type} {limit : Option UInt64} {detailed : Bool}
    {denoted : α → Handle kind} {page : Remote (Listing kind × σ) (List α)}
    (paging : IsPaging transport names listing limit detailed denoted page)
    (catalog : IsCatalog names) {delivered remaining : List String}
    (split : matching names listing.beginning = delivered ++ remaining)
    (positive : ∀ l, limit = some l → 1 ≤ l.toNat) {message : Http.Request}
    (written : listing.pageMessage (delivered.getLast?.getD "") limit detailed = .ok message)
    (state : σ) :
    ∃ front rest pulled response next items,
      remaining = front ++ rest ∧ (front = [] → rest = []) ∧
        transport.send message state = (⟨.ok response, pulled⟩, next) ∧
        IsAnswer listing.scope detailed front response ∧
        items.map denoted = front.map listing.handle ∧
        page (listing.goneTo (.after (delivered.getLast?.getD "")), state) =
          .ok items (listing.goneTo
            (Progress.position ⟨delivered ++ front, rest, front.isEmpty⟩), next) := by
  obtain ⟨cap, pulled, response, next, items, hcap, sent, answer, hitems, run⟩ :=
    paging.answered _ state message written
  have count := one_le_size positive hcap (delivered.getLast?.getD "") listing.beginning detailed
  rw [page_after catalog split] at answer hitems run
  rw [positionAfter_page delivered _ (remaining.drop _)] at run
  exact ⟨_, _, pulled, response, next, items, (List.take_append_drop _ _).symm,
    isEmpty_take count, sent, answer, hitems, run⟩

theorem Serves.serves_observed (serves : Serves transport names listing) :
    Serves transport.observed names listing := by
  intro marker limit detailed message state written
  obtain ⟨events, state⟩ := state
  obtain ⟨cap, pulled, response, next, hcap, sent, answer⟩ :=
    serves marker limit detailed message state written
  refine ⟨cap, pulled, response, (events ++ [.send message ⟨.ok response, pulled⟩], next), hcap, ?_,
    answer⟩
  simp [Transport.observed, sent]

private theorem isPaging_page (catalog : IsCatalog names) (serves : Serves transport names listing)
    (free : SetsNoParameter listing) (call : PageCall) :
    IsPaging transport names listing call.limit call.detailed id (call.page transport) := by
  unfold PageCall.page
  cases call.detailed with
  | false =>
      simp only [Bool.false_eq_true, if_false]
      exact isPaging_nextPage catalog serves free call.limit
  | true =>
      have paging := isPaging_nextPageDetailed serves free call.limit
      simp only [if_true]
      constructor
      · intro state
        exact Remote.map_of_ok _ (paging.exhausted state)
      · intro marker state error refused
        exact Remote.map_of_error _ (paging.refused marker state error refused)
      · intro marker state message written
        obtain ⟨cap, pulled, response, next, items, hcap, sent, answer, hitems, run⟩ :=
          paging.answered marker state message written
        refine ⟨cap, pulled, response, next, items.map Prod.fst, hcap, sent, answer, ?_, ?_⟩
        · rw [List.map_id]
          exact hitems
        · exact Remote.map_of_ok _ run

theorem turn_step (catalog : IsCatalog names) (serves : Serves transport names listing)
    (free : SetsNoParameter listing) {call : PageCall} (positive : call.IsPositive)
    (state : Listing kind × σ) (first : Progress) (made : HasMade names listing state first) :
    ∃ second, Step listing first (call.turn transport state).1 second ∧
      HasMade names listing (call.turn transport state).2 second := by
  obtain ⟨current, state⟩ := state
  obtain ⟨valid, rfl⟩ := made
  have paging := isPaging_page catalog serves.serves_observed free call
  obtain ⟨delivered, remaining, ended⟩ := first
  cases ended with
  | true =>
      have ran : call.turn transport (listing.goneTo .exhausted, state) =
          (⟨call, .ok [], []⟩, (listing.goneTo .exhausted, state)) := by
        unfold PageCall.turn
        simp only [Remote.attempt_of_ok (paging.exhausted ([], state))]
        rfl
      refine ⟨_, ?_, valid, ?_⟩
      · exact ran ▸ .ended rfl
      · exact congrArg (·.2.1) ran
  | false =>
      cases hwritten : listing.pageMessage (delivered.getLast?.getD "") call.limit
          call.detailed with
      | error error =>
          have ran : call.turn transport
              (listing.goneTo (.after (delivered.getLast?.getD "")), state) =
              (⟨call, .error error, []⟩,
                (listing.goneTo (.after (delivered.getLast?.getD "")), state)) := by
            unfold PageCall.turn
            simp only [Remote.attempt_of_error (paging.refused _ ([], state) error hwritten)]
            rfl
          refine ⟨_, ?_, valid, ?_⟩
          · exact ran ▸ .refused rfl hwritten
          · exact congrArg (·.2.1) ran
      | ok message =>
          obtain ⟨front, rest, pulled, response, next, items, rfl, last, sent, answer, hitems, run⟩ :=
            paging.exists_step catalog valid.split positive hwritten ([], state)
          rw [List.map_id] at hitems
          subst hitems
          obtain ⟨reached, -, rfl⟩ := Transport.of_observed sent
          have ran : call.turn transport
              (listing.goneTo (.after (delivered.getLast?.getD "")), state) =
              (⟨call, .ok (front.map listing.handle), [(message, ⟨.ok response, pulled⟩)]⟩,
                (listing.goneTo (Progress.position ⟨delivered ++ front, rest, front.isEmpty⟩),
                  reached)) := by
            unfold PageCall.turn
            simp only [Remote.attempt_of_ok run]
            rfl
          have step : Step listing ⟨delivered, front ++ rest, false⟩
              ⟨call, .ok (front.map listing.handle), [(message, ⟨.ok response, pulled⟩)]⟩
              ⟨delivered ++ front, rest, front.isEmpty⟩ := .answered last answer
          refine ⟨_, ?_, step.isOf_second valid, ?_⟩
          · exact ran ▸ step
          · exact congrArg (·.2.1) ran

end

end ObjectStorage.Listing
