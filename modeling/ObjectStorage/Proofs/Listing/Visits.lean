import ObjectStorage.Proofs.Listing.Complete
import ObjectStorage.Proofs.Runs

/-!
# Visits to listings

A loop over a listing hands the items of page after page to a callback.  It goes on to the next page
only from the last item of a page, so that a callback that fails within a page ends the visits to
that page: a further loop starts with the page after it.
-/

namespace ObjectStorage.Listing

variable {kind : Kind} {σ α : Type}

/-! ## Loops -/

/-- A callback that was given an item, and how it ended. -/
structure Visit (kind : Kind) where
  item : Handle kind
  result : Except Error Unit

/-- The callback, with a record of what it is given and of how it ends. -/
def noted (denoted : α → Handle kind) (callback : α → Remote σ Unit) (item : α) :
    Remote (List (Visit kind) × σ) Unit := fun (visits, state) =>
  match callback item state with
  | .ok value state => .ok value (visits ++ [⟨denoted item, .ok ()⟩], state)
  | .error error state => .error error (visits ++ [⟨denoted item, .error error⟩], state)

inductive VisitCall (kind : Kind) (σ : Type) where
  | plain (callback : Handle kind → Remote σ Unit) (rounds : Nat)
  | detailed (callback : Handle kind × Details kind → Remote σ Unit) (rounds : Nat)

def VisitCall.perform (transport : Transport σ) :
    VisitCall kind σ → Remote (Listing kind × List (Visit kind) × σ) Bool
  | .plain callback rounds => foreach transport.onSecond (noted id callback) rounds
  | .detailed callback rounds => foreachDetailed transport.onSecond (noted Prod.fst callback) rounds

structure VisitTurn (kind : Kind) (σ : Type) where
  call : VisitCall kind σ
  visits : List (Visit kind)
  /-- Whether the listing ended, or the error of a callback or of a page. -/
  result : Except Error Bool

namespace VisitTurn

def handed (turn : VisitTurn kind σ) : List (Handle kind) := turn.visits.map Visit.item

def IsUndisturbed (turn : VisitTurn kind σ) : Prop :=
  ∀ visit ∈ turn.visits, visit.result = .ok ()

end VisitTurn

def VisitCall.turn (transport : Transport σ) (call : VisitCall kind σ) :
    StateM (Listing kind × σ) (VisitTurn kind σ) := fun (listing, state) =>
  let (result, (listing, (visits, state))) :=
    (call.perform transport).attempt (listing, ([], state))
  (⟨call, visits, result⟩, (listing, state))

/-! ## What a loop visits -/

def succeeded (items : List (Handle kind)) : List (Visit kind) :=
  items.map fun item => ⟨item, .ok ()⟩

/-- Whether the items are those of a page that the transport answers with. -/
def IsPage (transport : Transport σ) (listing : Listing kind) (items : List (Handle kind)) : Prop :=
  ∃ message state response pulled next detailed names,
    transport.send message state = (⟨.ok response, pulled⟩, next) ∧
    IsAnswer listing.scope detailed names response ∧ items = names.map listing.handle

/-- What a loop does to the items that remain: those it visits, and if a callback fails also the
rest of its page, which no callback is given. -/
inductive Visiting (transport : Transport σ) (listing : Listing kind) :
    List (Handle kind) → List (Visit kind) → Except Error Bool → List (Handle kind) → Prop
  | finished {items : List (Handle kind)} :
      Visiting transport listing items (succeeded items) (.ok true) []
  | paused {items rest : List (Handle kind)} :
      Visiting transport listing (items ++ rest) (succeeded items) (.ok false) rest
  | refused {items rest : List (Handle kind)} {marker : String} {detailed : Bool} {error : Error}
      (refused : listing.pageMessage marker none detailed = .error error) :
      Visiting transport listing (items ++ rest) (succeeded items) (.error error) rest
  | stopped {items front lost rest : List (Handle kind)} {item : Handle kind} {error : Error}
      (page : IsPage transport listing (front ++ item :: lost)) :
      Visiting transport listing (items ++ (front ++ item :: lost) ++ rest)
        (succeeded (items ++ front) ++ [⟨item, .error error⟩]) (.error error) rest

section

variable {transport : Transport σ} {listing : Listing kind}

private theorem succeeded_append (first second : List (Handle kind)) :
    succeeded (first ++ second) = succeeded first ++ succeeded second :=
  List.map_append

theorem Visiting.append_page {remaining rest : List (Handle kind)} {visits : List (Visit kind)}
    {result : Except Error Bool} (visiting : Visiting transport listing remaining visits result rest)
    (page : List (Handle kind)) :
    Visiting transport listing (page ++ remaining) (succeeded page ++ visits) result rest := by
  cases visiting with
  | finished =>
      rw [← succeeded_append]
      exact .finished
  | paused =>
      rw [← succeeded_append, ← List.append_assoc]
      exact .paused
  | refused refused =>
      rw [← succeeded_append, ← List.append_assoc]
      exact .refused refused
  | @stopped items front lost rest item error answered =>
      have stopped : Visiting transport listing
          (page ++ items ++ (front ++ item :: lost) ++ rest)
          (succeeded (page ++ items ++ front) ++ [⟨item, .error error⟩]) (.error error) rest :=
        .stopped answered
      simpa only [succeeded_append, List.append_assoc] using stopped

private theorem attempt_forM_noted (listing : Listing kind) (denoted : α → Handle kind)
    (callback : α → Remote σ Unit) (items : List α) (visits : List (Visit kind)) (state : σ) :
    ∃ last,
      (items.forM fun item => Remote.onSecond (noted denoted callback item)).attempt
          (listing, (visits, state)) =
        (.ok (), (listing, (visits ++ succeeded (items.map denoted), last))) ∨
      ∃ before item after error, items = before ++ item :: after ∧
        (items.forM fun item => Remote.onSecond (noted denoted callback item)).attempt
            (listing, (visits, state)) =
          (.error error, (listing,
            (visits ++ (succeeded (before.map denoted) ++ [⟨denoted item, .error error⟩]),
              last))) := by
  induction items generalizing visits state with
  | nil => exact ⟨state, .inl (by simp [succeeded]; rfl)⟩
  | cons item items ih =>
      simp only [List.forM, Remote.attempt_bind, Remote.attempt_onSecond]
      cases ran : callback item state with
      | error error next =>
          refine ⟨next, .inr ⟨[], item, items, error, rfl, ?_⟩⟩
          simp [noted, Remote.attempt, ran, succeeded]
      | ok value next =>
          have visited : (noted denoted callback item).attempt (visits, state) =
              (.ok (), (visits ++ [⟨denoted item, .ok ()⟩], next)) := by
            simp [noted, Remote.attempt, ran]
          rw [visited]
          obtain ⟨last, all | ⟨before, failed, after, error, rfl, stopped⟩⟩ :=
            ih (visits ++ [⟨denoted item, .ok ()⟩]) next
          · refine ⟨last, .inl (all.trans ?_)⟩
            simp [succeeded]
          · refine ⟨last, .inr ⟨item :: before, failed, after, error, rfl, stopped.trans ?_⟩⟩
            simp [succeeded]

theorem Serves.serves_onSecond {names : List String} {τ : Type}
    (serves : Serves transport names listing) :
    Serves (transport.onSecond : Transport (τ × σ)) names listing := by
  rintro marker limit detailed message ⟨first, state⟩ written
  obtain ⟨cap, pulled, response, next, hcap, sent, answer⟩ :=
    serves marker limit detailed message state written
  refine ⟨cap, pulled, response, (first, next), hcap, ?_, answer⟩
  simp [Transport.onSecond, sent]

private theorem isPage_of_onSecond {τ : Type} {message : Http.Request} {state : τ × σ}
    {response : Http.Response} {pulled : Nat} {next : τ × σ} {detailed : Bool} {names : List String}
    (sent : transport.onSecond.send message state = (⟨.ok response, pulled⟩, next))
    (answer : IsAnswer listing.scope detailed names response) :
    IsPage transport listing (names.map listing.handle) := by
  obtain ⟨first, state⟩ := state
  refine ⟨message, state, response, pulled, (transport.send message state).2, detailed, names,
    ?_, answer, rfl⟩
  have result : (transport.onSecond.send message (first, state)).1 = _ := congrArg Prod.fst sent
  exact Prod.ext result rfl

variable {names : List String} {denoted : α → Handle kind} {detailed : Bool}
  {page : Remote (Listing kind × List (Visit kind) × σ) (List α)} {progress : Progress}

private theorem log_of_send {τ : Type} {message : Http.Request} {exchange : Exchange}
    {first log : τ} {state last : σ}
    (sent : transport.onSecond.send message (first, state) = (exchange, (log, last))) :
    log = first :=
  (congrArg (fun outcome => outcome.2.1) sent).symm

section

variable {visit : α → Remote σ Unit} {page : Remote (Listing kind × σ) (List α)}
  {state next : Listing kind × σ} {rounds : Nat}

private theorem attempt_visitPages_of_empty (run : page state = .ok [] next) :
    (visitPages page visit (rounds + 1)).attempt state = (.ok true, next) := by
  rw [visitPages]
  exact Remote.attempt_of_ok (Remote.bind_of_ok run)

theorem attempt_visitPages_of_page {items : List α} (some : items ≠ [])
    (run : page state = .ok items next) :
    (visitPages page visit (rounds + 1)).attempt state =
      match (items.forM fun item => Remote.onSecond (visit item)).attempt next with
      | (.ok (), next) => (visitPages page visit rounds).attempt next
      | (.error error, next) => (.error error, next) := by
  rw [visitPages, Remote.attempt_bind, Remote.attempt_of_ok run]
  have isEmpty : items.isEmpty = false := by simpa using some
  simp only [isEmpty, Bool.false_eq_true, if_false]
  rw [Remote.attempt_bind]
  rcases (items.forM fun item => Remote.onSecond (visit item)).attempt next with ⟨_ | ⟨⟩, last⟩
  · rfl
  · rfl

end

/-- A loop leaves the listing between two pages, whatever its callbacks do. -/
theorem visitPages_run
    (paging : IsPaging transport.onSecond names listing none detailed denoted page)
    (catalog : IsCatalog names) (valid : progress.IsOf names listing)
    (callback : α → Remote σ Unit) (rounds : Nat) (visits : List (Visit kind)) (state : σ) :
    ∃ result new, ∃ reached : Progress, ∃ last,
      (visitPages page (noted denoted callback) rounds).attempt
          (listing.goneTo progress.position, (visits, state)) =
        (result, (listing.goneTo reached.position, (visits ++ new, last))) ∧
      reached.IsOf names listing ∧
      Visiting transport listing (progress.remaining.map listing.handle) new result
        (reached.remaining.map listing.handle) := by
  induction rounds generalizing progress visits state with
  | zero =>
      refine ⟨.ok false, [], progress, state, ?_, valid, @Visiting.paused _ _ _ _ [] _⟩
      rw [List.append_nil]
      rfl
  | succ rounds ih =>
      obtain ⟨delivered, remaining, ended⟩ := progress
      cases ended with
      | true =>
          obtain rfl : remaining = [] := valid.ended rfl
          refine ⟨.ok true, [], ⟨delivered, [], true⟩, state, ?_, valid, .finished⟩
          rw [List.append_nil]
          exact attempt_visitPages_of_empty (paging.exhausted (visits, state))
      | false =>
      cases written : listing.pageMessage (delivered.getLast?.getD "") none detailed with
      | error error =>
          refine ⟨.error error, [], ⟨delivered, remaining, false⟩, state, ?_, valid,
            @Visiting.refused _ _ _ _ [] _ _ _ _ written⟩
          rw [List.append_nil, visitPages]
          exact Remote.attempt_of_error
            (Remote.bind_of_error (paging.refused _ (visits, state) error written))
      | ok message =>
      obtain ⟨front, rest, pulled, response, next, items, rfl, last, sent, answer, hitems, run⟩ :=
        paging.exists_step catalog valid.split nofun written (visits, state)
      obtain ⟨log, reached⟩ := next
      obtain rfl : log = visits := log_of_send sent
      -- A page without items is the end; after any other the listing is at the last of its items.
      by_cases empty : front = []
      · obtain rfl := last empty
        subst empty
        obtain rfl : items = [] := by simpa using hitems
        refine ⟨.ok true, [], ⟨delivered ++ [], [], true⟩, reached, ?_, ?_, .finished⟩
        · rw [List.append_nil log]
          exact attempt_visitPages_of_empty run
        · exact ⟨by simpa using valid.split, fun _ => rfl⟩
      have some : items ≠ [] := by
        rintro rfl
        exact empty (by simpa using hitems.symm)
      have going : front.isEmpty = false := by simpa using empty
      rw [going] at run
      have ran : (visitPages page (noted denoted callback) (rounds + 1)).attempt _ = _ :=
        attempt_visitPages_of_page some run
      have validNext : Progress.IsOf names listing ⟨delivered ++ front, rest, false⟩ :=
        ⟨by simpa using valid.split, nofun⟩
      obtain ⟨final, all | ⟨before, failed, after, error, rfl, stopped⟩⟩ :=
        attempt_forM_noted (listing.goneTo (Progress.position ⟨delivered ++ front, rest, false⟩))
          denoted callback items log reached
      · obtain ⟨result, new, progress, last, others, validLast, visiting⟩ :=
          ih validNext (log ++ succeeded (items.map denoted)) final
        rw [all] at ran
        refine ⟨result, succeeded (front.map listing.handle) ++ new, progress, last, ?_,
          validLast, ?_⟩
        · rw [← hitems, ← List.append_assoc]
          exact ran.trans others
        · rw [List.map_append]
          exact visiting.append_page _
      · rw [stopped] at ran
        refine ⟨_, _, ⟨delivered ++ front, rest, false⟩, final, ran, validNext, ?_⟩
        have answered := isPage_of_onSecond sent answer
        rw [← hitems, List.map_append, List.map_cons] at answered
        rw [List.map_append, ← hitems, List.map_append, List.map_cons]
        exact @Visiting.stopped _ _ _ _ [] _ _ _ _ error answered

private theorem perform_run (catalog : IsCatalog names) (serves : Serves transport names listing)
    (free : SetsNoParameter listing) (valid : progress.IsOf names listing)
    (call : VisitCall kind σ) (state : σ) :
    ∃ result visits, ∃ reached : Progress, ∃ last,
      (call.perform transport).attempt (listing.goneTo progress.position, ([], state)) =
        (result, (listing.goneTo reached.position, (visits, last))) ∧
      reached.IsOf names listing ∧
      Visiting transport listing (progress.remaining.map listing.handle) visits result
        (reached.remaining.map listing.handle) := by
  cases call with
  | plain callback rounds =>
      exact visitPages_run (isPaging_nextPage catalog serves.serves_onSecond free none) catalog
        valid callback rounds [] state
  | detailed callback rounds =>
      exact visitPages_run (isPaging_nextPageDetailed serves.serves_onSecond free none) catalog
        valid callback rounds [] state

/-! ## Runs of loops -/

def VisitStep (transport : Transport σ) (listing : Listing kind) (remaining : List (Handle kind))
    (turn : VisitTurn kind σ) (rest : List (Handle kind)) : Prop :=
  Visiting transport listing remaining turn.visits turn.result rest

/-- What holds of loops one after the other. -/
structure Visited (names : List String) (listing : Listing kind) (run : List (VisitTurn kind σ)) :
    Prop where
  order : (run.flatMap VisitTurn.handed).Sublist (allHandles names listing)
  complete : (∀ turn ∈ run, turn.IsUndisturbed) → (∃ turn ∈ run, turn.result = .ok true) →
    run.flatMap VisitTurn.handed = allHandles names listing

/-- Whether the listing is at a page boundary with these items after it. -/
def IsBefore (names : List String) (listing : Listing kind) (state : Listing kind × σ)
    (remaining : List (Handle kind)) : Prop :=
  ∃ progress, HasMade names listing state progress ∧
    remaining = progress.remaining.map listing.handle

theorem turn_visits (catalog : IsCatalog names) (serves : Serves transport names listing)
    (free : SetsNoParameter listing) (call : VisitCall kind σ) (state : Listing kind × σ)
    (remaining : List (Handle kind)) (before : IsBefore names listing state remaining) :
    ∃ rest, VisitStep transport listing remaining (call.turn transport state).1 rest ∧
      IsBefore names listing (call.turn transport state).2 rest := by
  obtain ⟨current, state⟩ := state
  obtain ⟨progress, ⟨valid, rfl⟩, rfl⟩ := before
  obtain ⟨result, visits, reached, last, ran, validLast, visiting⟩ :=
    perform_run catalog serves free valid call state
  refine ⟨reached.remaining.map listing.handle, ?_, reached, ⟨validLast, ?_⟩, rfl⟩
  · rw [VisitStep, VisitCall.turn, ran]
    exact visiting
  · rw [VisitCall.turn, ran]

variable {remaining rest : List (Handle kind)} {turn : VisitTurn kind σ}
  {run : List (VisitTurn kind σ)}

theorem map_item_succeeded (items : List (Handle kind)) :
    (succeeded items).map Visit.item = items := by
  simp [succeeded, Function.comp_def]

theorem Visiting.items_sublist {visits : List (Visit kind)} {result : Except Error Bool}
    (visiting : Visiting transport listing remaining visits result rest) :
    (visits.map Visit.item ++ rest).Sublist remaining := by
  cases visiting with
  | finished => simp [map_item_succeeded]
  | paused => simp [map_item_succeeded]
  | refused => simp [map_item_succeeded]
  | stopped => simp [map_item_succeeded]

theorem Visiting.items_eq_of_undisturbed {visits : List (Visit kind)} {result : Except Error Bool}
    (visiting : Visiting transport listing remaining visits result rest)
    (undisturbed : ∀ visit ∈ visits, visit.result = .ok ()) :
    visits.map Visit.item ++ rest = remaining := by
  cases visiting with
  | finished => simp [map_item_succeeded]
  | paused => simp [map_item_succeeded]
  | refused => simp [map_item_succeeded]
  | stopped =>
      have failed := undisturbed _ (List.mem_append_right _ (List.mem_singleton_self _))
      cases failed

private theorem Visiting.nothing_left {visits : List (Visit kind)}
    (visiting : Visiting transport listing remaining visits (.ok true) rest) : rest = [] := by
  cases visiting
  rfl

theorem sublist_of_path (path : Path (VisitStep transport listing) remaining run rest) :
    (run.flatMap VisitTurn.handed ++ rest).Sublist remaining := by
  induction path with
  | refl => exact List.Sublist.refl _
  | next step _ ih =>
      rw [List.flatMap_cons, List.append_assoc]
      exact (ih.append_left _).trans (Visiting.items_sublist step)

theorem whole_of_path (path : Path (VisitStep transport listing) remaining run rest)
    (undisturbed : ∀ turn ∈ run, turn.IsUndisturbed) :
    run.flatMap VisitTurn.handed ++ rest = remaining := by
  induction path with
  | refl => rfl
  | next step _ ih =>
      obtain ⟨first, others⟩ := List.forall_mem_cons.mp undisturbed
      rw [List.flatMap_cons, List.append_assoc, ih others]
      exact Visiting.items_eq_of_undisturbed step first

theorem finished_of_path (path : Path (VisitStep transport listing) remaining run rest)
    (finished : ∃ turn ∈ run, turn.result = .ok true) : rest = [] := by
  obtain ⟨turn, among, finished⟩ := finished
  obtain ⟨before, after, rfl⟩ := List.append_of_mem among
  obtain ⟨second, next, -, step, others⟩ := path.split_at
  have nothing := sublist_of_path others
  rw [VisitStep, finished] at step
  rw [step.nothing_left, List.sublist_nil] at nothing
  exact (List.append_eq_nil_iff.mp nothing).2

end

/--
Loops over a listing visit its items in order, each at most once.  What one of them does not visit
is left for the next, except that after a callback that failed the rest of its page is left out; if
no callback fails, all items have been visited once a loop has ended the listing.
-/
theorem visits_follow_pages {transport : Transport σ} {names : List String}
    {listing : Listing kind} (catalog : IsCatalog names) (serves : Serves transport names listing)
    (free : SetsNoParameter listing) (start : listing.position = .after "")
    (calls : List (VisitCall kind σ)) (state : σ) :
    ∃ run reached last rest, calls.mapM (VisitCall.turn transport) (listing, state) =
        (run, (reached, last)) ∧
      run.map VisitTurn.call = calls ∧
      Path (VisitStep transport listing) (allHandles names listing) run rest ∧
      Visited names listing run := by
  have before : IsBefore names listing (listing, state) (allHandles names listing) :=
    ⟨.start names listing, hasMade_start names start state, rfl⟩
  obtain ⟨rest, path, -⟩ := path_of_turns calls
    (fun call _ => turn_visits catalog serves free call) before
  have same : (calls.mapM (VisitCall.turn transport) (listing, state)).1.map VisitTurn.call = calls :=
    calls_of_turns (fun _ _ => rfl) calls (listing, state)
  refine ⟨_, _, _, rest, rfl, same, path, ?_, ?_⟩
  · exact (List.sublist_append_left _ rest).trans (sublist_of_path path)
  · intro undisturbed finished
    have whole := whole_of_path path undisturbed
    rwa [finished_of_path path finished, List.append_nil] at whole

/-- A callback that fails at one container. -/
def failsAt (name : String) (item : Container) : Remote Unit Unit :=
  if item.place = .container name then throw (.invalidRequest (.stated "stop")) else pure ()

/-- On pages of one item each, the loop after a failure visits all the others. -/
theorem visits_follow_pages_shelf :
    ∃ run rest, Path (VisitStep (singleServer ["a", "b"]) (shelf none .none))
        (["a", "b"].map (shelf none .none).handle) run rest ∧
      Visited ["a", "b"] (shelf none .none) run ∧
      (run.map fun turn => (turn.result.toOption, turn.handed.map Handle.place)) =
        [(none, [.container "a"]), (some true, [.container "b"])] := by
  obtain ⟨run, reached, last, rest, ran, -, path, visited⟩ := visits_follow_pages isCatalog_pair
    (serves_singleServer (shelf none .none)) setsNoParameter_shelf rfl
    [.plain (failsAt "a") 3, .plain (failsAt "") 3] ()
  have handed : (([.plain (failsAt "a") 3, .plain (failsAt "") 3] :
      List (VisitCall .container Unit)).mapM (VisitCall.turn (singleServer ["a", "b"]))
        (shelf none .none, ())).1.map
          (fun turn => (turn.result.toOption, turn.handed.map Handle.place)) =
      [(none, [.container "a"]), (some true, [.container "b"])] := by
    decide +kernel
  rw [ran] at handed
  have names : matching ["a", "b"] (shelf none .none).beginning = ["a", "b"] := by decide +kernel
  rw [allHandles, names] at path
  exact ⟨run, rest, path, visited, handed⟩

/-! ## A server of whole pages -/

/-- Gives all names at once. -/
def wholePage (names : List String) (question : Question) : Http.Response :=
  match question.page names names.length with
  | [] => ⟨.noContent, .none, .empty⟩
  | page =>
      let records := page.map fun name => "[\"" ++ name ++ "\",0,0]"
      let text := if question.detailed then "[" ++ ",".intercalate records ++ "]"
        else String.ofList (lines page)
      ⟨.ok, .none, .bytes (Utf8.ofText text)⟩

def wholeServer (names : List String) : Transport Unit where
  send message := fun state => (⟨.ok (wholePage names (.ofMessage message)), 0⟩, state)

private theorem page_sublist (question : Question) (names : List String) (cap : Nat) :
    (question.page names cap).Sublist names :=
  (List.take_sublist _ _).trans ((List.filter_sublist).trans List.filter_sublist)

private theorem pages_of_pair {page : List String} (h : page.Sublist ["a", "b"]) :
    page ∈ [[], ["a"], ["b"], ["a", "b"]] := by
  simp only [List.sublist_cons_iff, List.sublist_nil] at h
  rcases h with (rfl | ⟨rest, rfl, rfl⟩) | ⟨rest, rfl, rfl | ⟨rest, rfl, rfl⟩⟩ <;> simp

private theorem serves_wholeServer (listing : Listing .container) :
    Serves (wholeServer ["a", "b"]) ["a", "b"] listing := by
  intro marker limit detailed message state written
  refine ⟨2, 0, _, state, by decide, rfl, ?_⟩
  generalize Question.ofMessage message = question
  have among := pages_of_pair (page_sublist question ["a", "b"] 2)
  obtain ⟨site, ⟨⟩, beginning, options, position⟩ := listing
  unfold wholePage
  change IsAnswer _ _ _ (match question.page ["a", "b"] 2 with | [] => _ | page => _)
  generalize question.page ["a", "b"] 2 = page at among ⊢
  cases page with
  | nil => exact .none rfl
  | cons name rest =>
      cases question.detailed with
      | false =>
          refine .lines ?_
          simp [Body.read, Utf8.ofText]
      | true =>
          have record : ∀ page ∈ [["a"], ["b"], ["a", "b"]], ((Json.parse? (Utf8.ofText ("[" ++
              ",".intercalate (page.map fun name => "[\"" ++ name ++ "\",0,0]") ++ "]"))).bind
                Scope.containers.records?) = some (page.map fun name => .container name 0 0) := by
            decide +kernel
          have some : name :: rest ∈ [["a"], ["b"], ["a", "b"]] := by simpa using among
          obtain ⟨json, parsed, listed⟩ := Option.bind_eq_some_iff.mp (record _ some)
          simp only [List.mem_cons, List.cons.injEq, List.not_mem_nil, or_false] at some
          rcases some with ⟨rfl, rfl⟩ | ⟨rfl, rfl⟩ | ⟨rfl, rfl⟩ <;>
            exact .records rfl parsed listed rfl

/-- The two containers come on one page: after a failure at the first, the second is left out. -/
theorem visits_skip_rest_of_page :
    ¬∀ (transport : Transport Unit) (names : List String) (listing : Listing .container)
        (calls : List (VisitCall .container Unit)),
      IsCatalog names → Serves transport names listing → SetsNoParameter listing →
      listing.position = .after "" →
      (∃ turn ∈ (calls.mapM (VisitCall.turn transport) (listing, ())).1,
        turn.result = .ok true) →
      ∀ item ∈ allHandles names listing,
        ∃ turn ∈ (calls.mapM (VisitCall.turn transport) (listing, ())).1, item ∈ turn.handed := by
  intro all
  have handed : (([.plain (failsAt "a") 3, .plain (failsAt "") 3] :
      List (VisitCall .container Unit)).mapM (VisitCall.turn (wholeServer ["a", "b"]))
        (shelf none .none, ())).1.map
          (fun turn => (turn.result.toOption, turn.handed.map Handle.place)) =
      [(none, [.container "a"]), (some true, [])] := by
    decide +kernel
  have visited := all (wholeServer ["a", "b"]) ["a", "b"] (shelf none .none)
    [.plain (failsAt "a") 3, .plain (failsAt "") 3] isCatalog_pair (serves_wholeServer _)
    setsNoParameter_shelf rfl
  obtain ⟨first, run, ran, hfirst, handed⟩ := List.map_eq_cons_iff.mp handed
  obtain ⟨second, run, rfl, hsecond, handed⟩ := List.map_eq_cons_iff.mp handed
  obtain rfl := List.map_eq_nil_iff.mp handed
  rw [ran] at visited
  obtain ⟨-, firstHanded⟩ := Prod.mk.inj hfirst
  obtain ⟨secondResult, secondHanded⟩ := Prod.mk.inj hsecond
  have ended : second.result = .ok true := by
    cases result : second.result <;> simp_all [Except.toOption]
  have listed : (shelf none .none).handle "b" ∈ allHandles ["a", "b"] (shelf none .none) :=
    List.mem_map_of_mem (by decide +kernel)
  obtain ⟨turn, among, item⟩ := visited ⟨second, by simp, ended⟩ _ listed
  have place := List.mem_map_of_mem (f := Handle.place) item
  simp only [List.mem_cons, List.not_mem_nil, or_false] at among
  rcases among with rfl | rfl
  · rw [firstHanded] at place
    exact absurd place (by decide)
  · rw [secondHanded] at place
    exact absurd place List.not_mem_nil

end ObjectStorage.Listing
