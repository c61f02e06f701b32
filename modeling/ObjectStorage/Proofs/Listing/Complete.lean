import ObjectStorage.Proofs.Listing.Runs

/-!
# Listings are complete

Every run of page calls against a server delivers the matching names in order, each once, and
knows when it has delivered all of them; collecting the rest fetches exactly what remains.
-/

namespace ObjectStorage.Listing

variable {kind : Kind} {σ : Type}

/-- The handles of all names that match, in order. -/
def allHandles (names : List String) (listing : Listing kind) : List (Handle kind) :=
  (matching names listing.beginning).map listing.handle

structure Pages (names : List String) (listing : Listing kind) (run : List (Turn kind)) : Prop where
  isPrefix : delivered run <+: allHandles names listing
  ended : ∀ before turn after, run = before ++ turn :: after → ∀ page, turn.result = .ok page →
    (page = [] ↔ delivered before = allHandles names listing)
  silent : ∀ before turn after, run = before ++ turn :: after →
    (∃ earlier ∈ before, earlier.result = .ok []) → turn.result = .ok [] ∧ turn.sends = []
  single : ∀ turn ∈ run, turn.sends.length ≤ 1
  failed : ∀ turn ∈ run, ∀ error, turn.result = .error error → turn.sends = [] ∧
    ∃ marker, (marker = "" ∨ marker ∈ matching names listing.beginning) ∧
      listing.pageMessage marker turn.call.limit turn.call.detailed = .error error

section

variable {names : List String} {listing : Listing kind} {first second third : Progress}
  {turn : Turn kind} {run before after : List (Turn kind)}

/-! ## What steps deliver -/

theorem Step.map_delivered_eq (step : Step listing first turn second) :
    second.delivered.map listing.handle =
      first.delivered.map listing.handle ++ turn.result.toOption.getD [] := by
  cases step <;> simp [Except.toOption]

theorem delivered_of_path (path : Path (Step listing) first run second) :
    second.delivered.map listing.handle =
      first.delivered.map listing.handle ++ Listing.delivered run := by
  induction path with
  | refl => simp [Listing.delivered]
  | next step _ ih =>
      rw [ih, step.map_delivered_eq]
      simp [Listing.delivered]

theorem Step.ended_iff (step : Step listing first turn second) :
    second.ended = true ↔ first.ended = true ∨ turn.result = .ok [] := by
  cases step with
  | ended ended => simp [ended]
  | refused going => simp [going]
  | answered => simp

theorem ended_iff_of_path (path : Path (Step listing) first run second) :
    second.ended = true ↔ first.ended = true ∨ ∃ turn ∈ run, turn.result = .ok [] := by
  induction path with
  | refl => simp
  | next step _ ih =>
      rw [ih, step.ended_iff]
      simp [or_assoc]

theorem Progress.IsOf.marker_eq_or_mem (valid : first.IsOf names listing) :
    first.marker = "" ∨ first.marker ∈ matching names listing.beginning := by
  unfold Progress.marker
  cases hlast : first.delivered.getLast? with
  | none => exact .inl rfl
  | some name =>
      refine .inr ?_
      rw [valid.split]
      exact List.mem_append_left _ (List.mem_of_getLast? hlast)

theorem Progress.IsOf.allHandles_eq (valid : first.IsOf names listing) :
    Listing.allHandles names listing =
      first.delivered.map listing.handle ++ first.remaining.map listing.handle := by
  rw [Listing.allHandles, valid.split, List.map_append]

theorem Progress.IsOf.remaining_eq_nil_iff (valid : first.IsOf names listing) :
    first.remaining = [] ↔ first.delivered.map listing.handle = Listing.allHandles names listing := by
  rw [valid.allHandles_eq]
  simp

theorem Step.isEmpty_iff (step : Step listing first turn second)
    (valid : first.IsOf names listing) {page : List (Handle kind)} (h : turn.result = .ok page) :
    page = [] ↔ first.remaining = [] := by
  cases step with
  | ended ended =>
      cases h
      simp [valid.ended ended]
  | refused => exact nomatch h
  | @answered delivered front rest call message response pulled last answer =>
      cases h
      constructor
      · intro hempty
        have : front = [] := by simpa using hempty
        simp [this, last this]
      · intro hremaining
        simp [(List.append_eq_nil_iff.mp hremaining).1]

theorem pages_of_path (path : Path (Step listing) (.start names listing) run third) :
    Pages names listing run := by
  have start := Progress.isOf_start names listing
  have reach {before after : List (Turn kind)} {turn : Turn kind}
      (h : run = before ++ turn :: after) : ∃ second next,
      Path (Step listing) (.start names listing) before second ∧ Step listing second turn next ∧
        second.IsOf names listing := by
    obtain ⟨second, next, front, step, -⟩ := (h ▸ path).split_at
    exact ⟨second, next, front, step, isOf_of_path front start⟩
  have deliveredBy {before : List (Turn kind)} {second : Progress}
      (front : Path (Step listing) (.start names listing) before second) :
      second.delivered.map listing.handle = delivered before :=
    delivered_of_path front
  constructor
  · have whole := (isOf_of_path path start).allHandles_eq
    rw [deliveredBy path] at whole
    exact ⟨_, whole.symm⟩
  · intro before turn after h page hpage
    obtain ⟨second, next, front, step, valid⟩ := reach h
    rw [step.isEmpty_iff valid hpage, valid.remaining_eq_nil_iff, deliveredBy front]
  · intro before turn after h earlier
    obtain ⟨second, next, front, step, valid⟩ := reach h
    have ended := (ended_iff_of_path front).mpr (.inr earlier)
    cases step with
    | ended => exact ⟨rfl, rfl⟩
    | refused going => simp [going] at ended
    | answered => exact nomatch ended
  · intro turn hturn
    obtain ⟨before, after, h⟩ := List.append_of_mem hturn
    obtain ⟨second, next, -, step, -⟩ := reach h
    cases step <;> simp
  · intro turn hturn error herror
    obtain ⟨before, after, h⟩ := List.append_of_mem hturn
    obtain ⟨second, next, -, step, valid⟩ := reach h
    cases step with
    | ended => exact nomatch herror
    | refused going refused =>
        cases herror
        exact ⟨rfl, second.marker, valid.marker_eq_or_mem, refused⟩
    | answered => exact nomatch herror

end

/-! ## Collecting what remains -/

/-- One request for each page of the names, and one for the empty page that ends the listing. -/
inductive Fetched (listing : Listing kind) (detailed : Bool) :
    List String → List (Http.Request × Exchange) → Prop
  | last {message : Http.Request} {response : Http.Response} {pulled : Nat}
      (answer : IsAnswer listing.scope detailed [] response) :
      Fetched listing detailed [] [(message, ⟨.ok response, pulled⟩)]
  | page {page rest : List String} {message : Http.Request} {response : Http.Response}
      {pulled : Nat} {sends : List (Http.Request × Exchange)} (hne : page ≠ [])
      (answer : IsAnswer listing.scope detailed page response)
      (others : Fetched listing detailed rest sends) :
      Fetched listing detailed (page ++ rest) ((message, ⟨.ok response, pulled⟩) :: sends)

/-- All pages of the listing can be asked for. -/
def IsWritable (names : List String) (listing : Listing kind) (detailed : Bool) : Prop :=
  ∀ marker, marker = "" ∨ marker ∈ matching names listing.beginning →
    ∃ message, listing.pageMessage marker none detailed = .ok message

/-- What the collected names denote, without the details. -/
def collectHandles (transport : Transport σ) (detailed : Bool) (rounds : Nat) :
    Remote (Listing kind × σ) (Option (List (Handle kind))) :=
  if detailed then
    (fun items => items.map (List.map Prod.fst)) <$> collectDetailed transport rounds
  else collect transport rounds

section

variable {transport : Transport σ} {names : List String} {listing : Listing kind}
  {detailed : Bool}

private theorem collectPages_exhausted {α : Type} {limit : Option UInt64}
    {denoted : α → Handle kind} {page : Remote (Listing kind × σ) (List α)}
    (paging : IsPaging transport names listing limit detailed denoted page) (rounds : Nat)
    (state : σ) :
    collectPages page (rounds + 1) (listing.goneTo .exhausted, state) =
      .ok (some []) (listing.goneTo .exhausted, state) := by
  rw [collectPages]
  exact Remote.bind_of_ok (paging.exhausted state)

theorem collectPages_run {α : Type} {denoted : α → Handle kind}
    {page : Remote (Listing kind × (List Observation × σ)) (List α)}
    (paging : IsPaging transport.observed names listing none detailed denoted page)
    (catalog : IsCatalog names) (writable : IsWritable names listing detailed)
    {delivered remaining : List String}
    (valid : Progress.IsOf names listing ⟨delivered, remaining, false⟩) {rounds : Nat}
    (enough : remaining.length < rounds) (events : List Observation) (state : σ) :
    ∃ items new last,
      collectPages page rounds
          (listing.goneTo (.after (delivered.getLast?.getD "")), (events, state)) =
        .ok (some items) (listing.goneTo .exhausted, (events ++ new, last)) ∧
      items.map denoted = remaining.map listing.handle ∧
      Fetched listing detailed remaining (Observation.sends new) := by
  induction rounds generalizing delivered remaining events state with
  | zero => omega
  | succ rounds ih =>
      have unlimited : ∀ limit : UInt64, none = some limit → 1 ≤ limit.toNat := by
        intro limit h
        cases h
      obtain ⟨message, written⟩ := writable _ valid.marker_eq_or_mem
      obtain ⟨front, rest, pulled, response, next, items, rfl, last, sent, answer, hitems, run⟩ :=
        paging.exists_step catalog valid.split unlimited written (events, state)
      obtain ⟨reached, -, rfl⟩ := Transport.of_observed sent
      by_cases hfront : front = []
      · have hrest := last hfront
        subst hfront hrest
        have hempty : items = [] := by simpa using hitems
        subst hempty
        refine ⟨[], [.send message ⟨.ok response, pulled⟩], reached, ?_, rfl, .last answer⟩
        rw [collectPages]
        exact Remote.bind_of_ok run
      · have hitems' : items.isEmpty = false := by
          cases items with
          | nil => exact absurd (by simpa using hitems.symm) hfront
          | cons => rfl
        have hposition : Progress.position ⟨delivered ++ front, rest, front.isEmpty⟩ =
            .after ((delivered ++ front).getLast?.getD "") := by
          have : front.isEmpty = false := by simpa using hfront
          simp [Progress.position, Progress.marker, this]
        rw [hposition] at run
        have validNext : Progress.IsOf names listing ⟨delivered ++ front, rest, false⟩ := by
          refine ⟨by simpa using valid.split, ?_⟩
          intro h
          cases h
        have fewer : rest.length < rounds := by
          have := List.length_pos_iff.mpr hfront
          rw [List.length_append] at enough
          omega
        obtain ⟨others, new, final, hrun, hothers, fetched⟩ := ih validNext fewer
          (events ++ [.send message ⟨.ok response, pulled⟩]) reached
        refine ⟨items ++ others, .send message ⟨.ok response, pulled⟩ :: new, final, ?_, ?_,
          .page hfront answer fetched⟩
        · rw [collectPages]
          refine (Remote.bind_of_ok run).trans ?_
          simp only [hitems', Bool.false_eq_true, if_false]
          refine (Remote.bind_of_ok hrun).trans ?_
          simp [pure, EStateM.pure]
        · rw [List.map_append, hitems, hothers, List.map_append]

private theorem collectHandles_exhausted (catalog : IsCatalog names)
    (serves : Serves transport names listing) (free : SetsNoParameter listing) (rounds : Nat)
    (state : σ) :
    collectHandles transport detailed (rounds + 1) (listing.goneTo .exhausted, state) =
      .ok (some []) (listing.goneTo .exhausted, state) := by
  unfold collectHandles
  cases detailed with
  | false => exact collectPages_exhausted (isPaging_nextPage catalog serves free none) rounds state
  | true =>
      exact Remote.map_of_ok _
        (collectPages_exhausted (isPaging_nextPageDetailed serves free none) rounds state)

theorem collectHandles_run (catalog : IsCatalog names) (serves : Serves transport names listing)
    (free : SetsNoParameter listing) (writable : IsWritable names listing detailed)
    {delivered remaining : List String}
    (valid : Progress.IsOf names listing ⟨delivered, remaining, false⟩) {rounds : Nat}
    (enough : remaining.length < rounds) (state : σ) :
    ∃ new last,
      collectHandles transport.observed detailed rounds
          (listing.goneTo (.after (delivered.getLast?.getD "")), ([], state)) =
        .ok (some (remaining.map listing.handle)) (listing.goneTo .exhausted, (new, last)) ∧
      Fetched listing detailed remaining (Observation.sends new) := by
  unfold collectHandles
  cases detailed with
  | false =>
      obtain ⟨items, new, last, hrun, hitems, fetched⟩ := collectPages_run
        (isPaging_nextPage catalog serves.serves_observed free none)
        catalog writable valid enough [] state
      rw [List.map_id] at hitems
      subst hitems
      exact ⟨new, last, hrun, fetched⟩
  | true =>
      obtain ⟨items, new, last, hrun, hitems, fetched⟩ := collectPages_run
        (isPaging_nextPageDetailed serves.serves_observed free none)
        catalog writable valid enough [] state
      refine ⟨new, last, (Remote.map_of_ok _ hrun).trans ?_, fetched⟩
      simp [hitems]

end

/-! ## Whole runs -/

/--
Whatever calls are made for the next page, the pages are the matching names in order, the first
empty one comes when all have been delivered, and collecting then gives those that have not.  A
call whose request cannot be written fails and changes nothing.
-/
theorem listing_complete {transport : Transport σ} {names : List String} {listing : Listing kind}
    (catalog : IsCatalog names) (serves : Serves transport names listing)
    (free : SetsNoParameter listing) (start : listing.position = .after "")
    {calls : List PageCall} (positive : ∀ call ∈ calls, call.IsPositive) (state : σ) :
    ∃ run reached next, calls.mapM (PageCall.turn transport) (listing, state) =
        (run, (reached, next)) ∧
      run.map Turn.call = calls ∧ Pages names listing run ∧
      ∀ detailed, IsWritable names listing detailed →
        ∀ rounds, (matching names listing.beginning).length < rounds →
          ∃ rest new last,
            collectHandles transport.observed detailed rounds (reached, ([], next)) =
              .ok (some (rest.map listing.handle)) (listing.goneTo .exhausted, (new, last)) ∧
            delivered run ++ rest.map listing.handle = allHandles names listing ∧
            ((∃ turn ∈ run, turn.result = .ok []) ∧ Observation.sends new = [] ∨
              (∀ turn ∈ run, turn.result ≠ .ok []) ∧
                Fetched listing detailed rest (Observation.sends new)) := by
  obtain ⟨progress, path, made⟩ := path_of_turns calls
    (fun call among => turn_step catalog serves free (positive call among))
    (hasMade_start names start state)
  have same : (calls.mapM (PageCall.turn transport) (listing, state)).1.map Turn.call = calls :=
    calls_of_turns (fun _ _ => rfl) calls (listing, state)
  generalize calls.mapM (PageCall.turn transport) (listing, state) = outcome at path made same ⊢
  obtain ⟨run, reached, next⟩ := outcome
  obtain ⟨validNext, rfl⟩ := made
  refine ⟨run, _, next, rfl, same, pages_of_path path, ?_⟩
  intro detailed writable rounds enough
  have whole := validNext.allHandles_eq
  rw [delivered_of_path path, Progress.start, List.map_nil, List.nil_append] at whole
  have length := congrArg List.length validNext.split
  rw [List.length_append] at length
  have ended := ended_iff_of_path path
  obtain ⟨done, remaining, isEnded⟩ := progress
  cases isEnded with
  | true =>
      have hremaining := validNext.ended rfl
      dsimp only at hremaining
      subst hremaining
      obtain ⟨rounds, rfl⟩ := Nat.exists_eq_succ_of_ne_zero (Nat.ne_zero_of_lt enough)
      refine ⟨[], [], next, collectHandles_exhausted catalog serves.serves_observed free rounds
        ([], next), whole.symm, .inl ⟨?_, rfl⟩⟩
      simpa [Progress.start] using ended
  | false =>
      have enoughNext : remaining.length < rounds := by
        dsimp only at length
        omega
      obtain ⟨new, last, hcollect, fetched⟩ :=
        collectHandles_run catalog serves free writable validNext enoughNext next
      refine ⟨remaining, new, last, hcollect, whole.symm, .inr ⟨?_, fetched⟩⟩
      simpa [Progress.start] using ended

/-! ## A server of single names -/

/-- Gives one name at a time. -/
def singlePage (names : List String) (question : Question) : Http.Response :=
  match question.page names 1 with
  | [] => ⟨.noContent, .none, .empty⟩
  | name :: _ =>
      let text := if question.detailed then "[[\"" ++ name ++ "\",0,0]]" else name
      ⟨.ok, .none, .bytes (Utf8.ofText text)⟩

def singleServer (names : List String) : Transport Unit where
  send message := fun state => (⟨.ok (singlePage names (.ofMessage message)), 0⟩, state)

theorem isCatalog_pair : IsCatalog ["a", "b"] where
  sorted := by decide +kernel
  nonempty := by decide
  oneLine := by decide

theorem serves_singleServer (listing : Listing .container) :
    Serves (singleServer ["a", "b"]) ["a", "b"] listing := by
  intro marker limit detailed message state written
  refine ⟨1, 0, _, state, Nat.le_refl 1, rfl, ?_⟩
  generalize Question.ofMessage message = question
  have short : (question.page ["a", "b"] 1).length ≤ 1 := by
    have size : question.size 1 ≤ 1 := by
      unfold Question.size
      split <;> omega
    exact Nat.le_trans (List.length_take_le _ _) size
  obtain ⟨site, ⟨⟩, beginning, options, position⟩ := listing
  unfold singlePage
  cases hpage : question.page ["a", "b"] 1 with
  | nil => exact .none rfl
  | cons name rest =>
      rw [hpage] at short
      have hrest : rest = [] := by simpa using short
      subst hrest
      have hname : name ∈ ["a", "b"] := mem_of_mem_page (hpage ▸ List.mem_cons_self)
      cases hdetailed : question.detailed with
      | false =>
          refine .unended ?_
          simp [Body.read, Text.join, Utf8.ofText]
      | true =>
          have record : ∀ name ∈ ["a", "b"], ((Json.parse? (Utf8.ofText ("[[\"" ++ name ++
              "\",0,0]]"))).bind Scope.containers.records?) = some [.container name 0 0] := by
            decide +kernel
          obtain ⟨json, parsed, listed⟩ := Option.bind_eq_some_iff.mp (record name hname)
          have readable : detailsFrom 0 [.container name 0 0] = .ok [(name, .container 0 0)] := rfl
          exact .records rfl parsed listed readable

/-- A listing of the containers of an account. -/
def shelf (query : Option String) (options : Options) : Listing .container :=
  ⟨⟨⟨"http", "", "", some "swift.test", none, .segments ["v1", "AUTH_test"], query, none, false⟩,
    "AUTH_test", .standard⟩, .containers, "", options, .after ""⟩

theorem setsNoParameter_shelf : SetsNoParameter (shelf none .none) where
  options _ _ := rfl
  address url hurl := by
    have located : ((shelf none .none).request "" none false).bare.url
        (shelf none .none).site.endpoint = .ok (shelf none .none).site.endpoint := by
      decide +kernel
    rw [located] at hurl
    cases hurl
    decide

private theorem isWritable_shelf : IsWritable ["a", "b"] (shelf none .none) false := by
  have written : ∀ marker ∈ ["", "a", "b"],
      ((shelf none .none).pageMessage marker none false).toOption.isSome = true := by
    decide +kernel
  intro marker hmarker
  have hmem : marker ∈ ["", "a", "b"] := by
    rcases hmarker with rfl | hmem
    · exact List.mem_cons_self
    · exact List.mem_cons_of_mem _ (List.mem_filter.mp hmem).1
  have := written marker hmem
  cases h : (shelf none .none).pageMessage marker none false with
  | error error => simp [h, Except.toOption] at this
  | ok message => exact ⟨message, rfl⟩

/-- One detailed page of the two containers, and what is left to collect. -/
theorem listing_complete_shelf :
    ∃ run reached next, ∃ rest : List String, ∃ new last,
      ([⟨some 1, true⟩] : List PageCall).mapM (PageCall.turn (singleServer ["a", "b"]))
        (shelf none .none, ()) = (run, (reached, next)) ∧
      Pages ["a", "b"] (shelf none .none) run ∧
      collectHandles (singleServer ["a", "b"]).observed false 3 (reached, ([], next)) =
        .ok (some (rest.map (shelf none .none).handle)) (last, (new, ())) ∧
      delivered run ++ rest.map (shelf none .none).handle =
        ["a", "b"].map (shelf none .none).handle := by
  have positive : ∀ call ∈ [(⟨some 1, true⟩ : PageCall)], call.IsPositive := by
    intro call hcall limit hlimit
    rw [List.mem_singleton.mp hcall] at hlimit
    cases hlimit
    decide
  obtain ⟨run, reached, next, hrun, -, pages, collected⟩ := listing_complete isCatalog_pair
    (serves_singleServer (shelf none .none)) setsNoParameter_shelf rfl positive ()
  have names : matching ["a", "b"] (shelf none .none).beginning = ["a", "b"] := by decide +kernel
  obtain ⟨rest, new, last, hcollect, whole, -⟩ := collected false isWritable_shelf 3 (by
    rw [names]
    decide)
  rw [allHandles, names] at whole
  exact ⟨run, reached, next, rest, new, _, hrun, pages, hcollect, whole⟩

/--
Two listings whose options set no parameter and that are not collected: a header that cannot be
sent stops the first page, and a marker in the address of the account passes all names over.
-/
theorem not_collected :
    let unsendable := shelf none (Options.none.withHeader "bad name" "x")
    let misplaced := shelf (some "marker=b") .none
    Serves (singleServer ["a", "b"]) ["a", "b"] unsendable ∧
      (∀ key ∈ pageKeys, unsendable.options.values.get? key = none) ∧
      ((collect (singleServer ["a", "b"]) 3).attempt (unsendable, ())).1 =
        .error (.badHeader "Bad name" .invalidName) ∧
      Serves (singleServer ["a", "b"]) ["a", "b"] misplaced ∧
      (∀ key ∈ pageKeys, misplaced.options.values.get? key = none) ∧
      ((collect (singleServer ["a", "b"]) 3).attempt (misplaced, ())).1 = .ok (some []) := by
  refine ⟨serves_singleServer _, fun _ _ => rfl, ?_, serves_singleServer _, fun _ _ => rfl, ?_⟩
  · decide +kernel
  · decide +kernel

end ObjectStorage.Listing
