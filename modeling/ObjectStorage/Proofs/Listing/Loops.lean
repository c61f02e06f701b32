import ObjectStorage.Listing.Loop
import ObjectStorage.Proofs.Listing.Visits
import ObjectStorage.Proofs.Listing.Positions
import ObjectStorage.Script

/-!
# Loops over listings

There is one way to go through a listing: to call for page after page, up to the first that is empty
or the first error.  A loop that collects the items and one that hands them to a callback both do
that, whether the items come with details or without.  What holds of all of them is shown of what
the calls come to, which any transport that answers alike brings about.
-/

namespace ObjectStorage

variable {kind : Kind} {σ τ α : Type}

/-- Whether the transport, from here on, answers no more than so many requests in a row. -/
def Transport.AnswersAtMost (transport : Transport σ) (count : Nat) (state : σ) : Prop :=
  ∀ sends last, transport.Answers sends state last →
    (∀ send ∈ sends, ∃ response, send.2.result = .ok response) → sends.length ≤ count

theorem Remote.ok_of_attempt {operation : Remote σ α} {state next : σ} {value : α}
    (h : operation.attempt state = (.ok value, next)) : operation state = .ok value next := by
  unfold attempt at h
  split at h
  · next ran =>
    cases h
    exact ran
  · exact nomatch congrArg Prod.fst h

/-- Whatever sends the message of a request and brings back an exchange, the request ends alike. -/
theorem Request.exists_executed {request : Request} {endpoint : Url} {message : Http.Request}
    (written : request.written endpoint = .ok message) (exchange : Exchange) :
    ∃ result, (∀ error, exchange.result = .error error → result = .error error) ∧
      ∀ ⦃σ : Type⦄ (transport : Transport σ) ⦃state last : σ⦄,
        transport.Answers [(message, exchange)] state last →
        (request.execute transport endpoint).attempt state = (result, last) := by
  obtain ⟨url, address, -⟩ := ok_of_bind written
  refine ⟨exchange.result.bind (request.accept url), ?_, ?_⟩
  · intro error failed
    rw [failed]
    rfl
  · rintro σ transport state last ⟨next, sent, answers⟩
    obtain rfl : last = next := answers
    obtain ⟨_, located, run⟩ := exchange_of_written written sent
    obtain rfl := Except.ok.inj (address.symm.trans located)
    rw [attempt_execute, run]

namespace Listing

/-! ## What is seen of a loop -/

inductive Act (α : Type) where
  | sent (send : Http.Request × Exchange)
  | handed (item : α)

namespace Act

def sends (acts : List (Act α)) : List (Http.Request × Exchange) :=
  acts.filterMap fun
    | .sent send => some send
    | .handed _ => none

def items (acts : List (Act α)) : List α :=
  acts.filterMap fun
    | .sent _ => none
    | .handed item => some item

@[simp] theorem sends_append (first second : List (Act α)) :
    sends (first ++ second) = sends first ++ sends second :=
  List.filterMap_append

@[simp] theorem items_append (first second : List (Act α)) :
    items (first ++ second) = items first ++ items second :=
  List.filterMap_append

@[simp] theorem sends_map_sent (sent : List (Http.Request × Exchange)) :
    sends (sent.map (Act.sent : _ → Act α)) = sent := by
  simp [sends, List.filterMap_map]

@[simp] theorem items_map_sent (sent : List (Http.Request × Exchange)) :
    items (sent.map (Act.sent : _ → Act α)) = [] := by
  simp [items, List.filterMap_map]

@[simp] theorem sends_map_handed (handed : List α) : sends (handed.map Act.handed) = [] := by
  simp [sends, List.filterMap_map]

@[simp] theorem items_map_handed (handed : List α) : items (handed.map Act.handed) = handed := by
  simp [items, List.filterMap_map]

@[simp] theorem sends_page (send : Http.Request × Exchange) (handed : List α)
    (later : List (Act α)) :
    sends (.sent send :: handed.map .handed ++ later) = send :: sends later := by
  rw [sends_append, ← List.singleton_append, sends_append, sends_map_handed]
  rfl

@[simp] theorem items_page (send : Http.Request × Exchange) (handed : List α)
    (later : List (Act α)) :
    items (.sent send :: handed.map .handed ++ later) = handed ++ items later := by
  rw [items_append, ← List.singleton_append, items_append, items_map_handed]
  rfl

end Act

def logged (transport : Transport σ) : Transport (List (Act α) × σ) where
  send message := fun (acts, state) =>
    let (exchange, state) := transport.send message state
    (exchange, (acts ++ [.sent (message, exchange)], state))

/-- A callback with a state of its own beside that of the transport. -/
def handing (callback : α → Remote τ Unit) (item : α) : Remote (List (Act α) × τ × σ) Unit :=
  fun (acts, own, state) =>
    match callback item own with
    | .ok () own => .ok () (acts ++ [.handed item], own, state)
    | .error error own => .error error (acts ++ [.handed item], own, state)

section

variable {transport : Transport σ} {sends : List (Http.Request × Exchange)} {state last : σ}

theorem answers_logged (acts : List (Act α)) (answers : transport.Answers sends state last) :
    (logged transport).Answers sends (acts, state) (acts ++ sends.map .sent, last) := by
  induction sends generalizing acts state with
  | nil =>
      obtain rfl : last = state := answers
      rw [List.map_nil, List.append_nil]
      rfl
  | cons send rest ih =>
      obtain ⟨next, sent, answers⟩ := answers
      refine ⟨(acts ++ [.sent send], next), ?_, ?_⟩
      · simp [logged, sent]
      · have others := ih (acts ++ [.sent send]) answers
        rw [List.append_assoc] at others
        exact others

private theorem answers_onSecond (first : τ) (answers : transport.Answers sends state last) :
    transport.onSecond.Answers sends (first, state) (first, last) := by
  induction sends generalizing state with
  | nil => exact congrArg (Prod.mk first) answers
  | cons send rest ih =>
      obtain ⟨next, sent, answers⟩ := answers
      refine ⟨(first, next), ?_, ih answers⟩
      simp [Transport.onSecond, sent]

end

/-! ## Page after page -/

/-- A call for the next page, over any transport. -/
def Pager (kind : Kind) (α : Type) : Type 1 :=
  ⦃σ : Type⦄ → Transport σ → Remote (Listing kind × σ) (List α)

/-- What a call for a page comes to over any transport that answers like this. -/
def ComesTo (page : Pager kind α) (listing : Listing kind)
    (sends : List (Http.Request × Exchange)) (result : Except Error (List α))
    (reached : Listing kind) : Prop :=
  ∀ ⦃σ : Type⦄ (transport : Transport σ) ⦃state last : σ⦄, transport.Answers sends state last →
    (page transport).attempt (listing, state) = (result, (reached, last))

/-- Whether a call goes by the answers alone, and gives items only if it was given an answer. -/
def IsPager (page : Pager kind α) : Prop :=
  ∀ ⦃σ : Type⦄ (transport : Transport σ) (listing : Listing kind) (state : σ),
    ∃ sends result reached last, transport.Answers sends state last ∧
      ComesTo page listing sends result reached ∧
      ∀ items, result = .ok items → items ≠ [] →
        ∃ message response pulled, sends = [(message, ⟨.ok response, pulled⟩)]

def calls (page : Pager kind α) (transport : Transport σ) (count : Nat) :
    StateM (Listing kind × σ) (List (Except Error (List α))) :=
  (List.replicate count ()).mapM fun _ => (page transport).attempt

/-- How page after page ends. -/
inductive Ending where
  | emptyPage
  | failed (error : Error)
  /-- Not within the rounds of the loop. -/
  | unfinished

namespace Ending

/-- What the call that ends it gives. -/
def answers : Ending → List (Except Error (List α))
  | .emptyPage => [.ok []]
  | .failed error => [.error error]
  | .unfinished => []

/-- What is collected, if these are the items of the pages. -/
def collected (items : List α) : Ending → Except Error (Option (List α))
  | .emptyPage => .ok (some items)
  | .failed error => .error error
  | .unfinished => .ok none

/-- Whether the listing ended, or why not. -/
def visited : Ending → Except Error Bool
  | .emptyPage => .ok true
  | .failed error => .error error
  | .unfinished => .ok false

end Ending

/-- What calls for at most so many pages come to: the pages with items, and how they end. -/
inductive Goes (page : Pager kind α) :
    Nat → Listing kind → List (List α) → List (Http.Request × Exchange) → Ending → Listing kind →
      Prop
  | unfinished {listing : Listing kind} : Goes page 0 listing [] [] .unfinished listing
  | emptyPage {rounds : Nat} {listing reached : Listing kind}
      {sends : List (Http.Request × Exchange)}
      (call : ComesTo page listing sends (.ok []) reached) :
      Goes page (rounds + 1) listing [] sends .emptyPage reached
  | failed {rounds : Nat} {listing reached : Listing kind}
      {sends : List (Http.Request × Exchange)} {error : Error}
      (call : ComesTo page listing sends (.error error) reached) :
      Goes page (rounds + 1) listing [] sends (.failed error) reached
  | went {rounds : Nat} {listing next reached : Listing kind} {items : List α}
      {pages : List (List α)} {message : Http.Request} {response : Http.Response} {pulled : Nat}
      {sends : List (Http.Request × Exchange)} {ending : Ending} (some : items ≠ [])
      (call : ComesTo page listing [(message, ⟨.ok response, pulled⟩)] (.ok items) next)
      (rest : Goes page rounds next pages sends ending reached) :
      Goes page (rounds + 1) listing (items :: pages) ((message, ⟨.ok response, pulled⟩) :: sends)
        ending reached

section

variable {page : Pager kind α}

theorem exists_goes (pager : IsPager page) (transport : Transport σ) (rounds : Nat)
    (listing : Listing kind) (state : σ) :
    ∃ pages sends ending reached last, transport.Answers sends state last ∧
      Goes page rounds listing pages sends ending reached := by
  induction rounds generalizing listing state with
  | zero => exact ⟨[], [], .unfinished, listing, state, rfl, .unfinished⟩
  | succ rounds ih =>
      obtain ⟨sends, result, reached, last, answers, call, given⟩ := pager transport listing state
      match result with
      | .error error => exact ⟨[], sends, .failed error, reached, last, answers, .failed call⟩
      | .ok [] => exact ⟨[], sends, .emptyPage, reached, last, answers, .emptyPage call⟩
      | .ok (item :: items) =>
          obtain ⟨message, response, pulled, rfl⟩ := given _ rfl (List.cons_ne_nil _ _)
          obtain ⟨pages, others, ending, final, finalState, rest, goes⟩ := ih reached last
          exact ⟨(item :: items) :: pages, _, ending, final, finalState, answers.append rest,
            .went (List.cons_ne_nil _ _) call goes⟩

variable {rounds : Nat} {listing reached : Listing kind} {pages : List (List α)}
  {sends : List (Http.Request × Exchange)} {ending : Ending} {transport : Transport σ}
  {state last : σ}

theorem Goes.pages_ne_nil (goes : Goes page rounds listing pages sends ending reached) :
    ∀ items ∈ pages, items ≠ [] := by
  induction goes with
  | unfinished => exact List.forall_mem_nil _
  | emptyPage => exact List.forall_mem_nil _
  | failed => exact List.forall_mem_nil _
  | went some _ _ ih => exact List.forall_mem_cons.mpr ⟨some, ih⟩

theorem Goes.of_unfinished (goes : Goes page rounds listing pages sends ending reached)
    (unfinished : ending = .unfinished) :
    pages.length = rounds ∧ sends.length = rounds ∧
      ∀ send ∈ sends, ∃ response, send.2.result = .ok response := by
  induction goes with
  | unfinished => exact ⟨rfl, rfl, List.forall_mem_nil _⟩
  | emptyPage => exact nomatch unfinished
  | failed => exact nomatch unfinished
  | went some call rest ih =>
      obtain ⟨pages, sends, answered⟩ := ih unfinished
      exact ⟨congrArg (· + 1) pages, congrArg (· + 1) sends,
        List.forall_mem_cons.mpr ⟨⟨_, rfl⟩, answered⟩⟩

theorem Goes.ending_ne_unfinished (goes : Goes page rounds listing pages sends ending reached)
    (answers : transport.Answers sends state last) {count : Nat}
    (most : transport.AnswersAtMost count state) (few : count < rounds) : ending ≠ .unfinished := by
  intro unfinished
  obtain ⟨-, length, answered⟩ := goes.of_unfinished unfinished
  have := most sends last answers answered
  omega

private theorem calls_succ (count : Nat) (start : Listing kind × σ) :
    calls page transport (count + 1) start =
      let (answer, between) := (page transport).attempt start
      let (answers, last) := calls page transport count between
      (answer :: answers, last) := by
  rw [calls, List.replicate_succ, List.mapM_cons]
  rfl

theorem Goes.calls_eq (goes : Goes page rounds listing pages sends ending reached)
    (answers : transport.Answers sends state last) :
    calls page transport (pages.length + (ending.answers (α := α)).length) (listing, state) =
      (pages.map .ok ++ ending.answers, (reached, last)) := by
  induction goes generalizing state with
  | unfinished =>
      obtain rfl : last = state := answers
      rfl
  | emptyPage call =>
      rw [List.length_nil, Nat.zero_add, Ending.answers, List.length_singleton, calls_succ,
        call transport answers]
      rfl
  | failed call =>
      rw [List.length_nil, Nat.zero_add, Ending.answers, List.length_singleton, calls_succ,
        call transport answers]
      rfl
  | went some call rest ih =>
      obtain ⟨next, sent, answers⟩ := answers
      rw [List.length_cons, Nat.add_right_comm, calls_succ,
        call transport ⟨next, sent, rfl⟩]
      simp only [ih answers]
      rfl

theorem Goes.collectPages_eq (goes : Goes page rounds listing pages sends ending reached)
    (answers : transport.Answers sends state last) :
    (collectPages (page transport) rounds).attempt (listing, state) =
      (ending.collected pages.flatten, (reached, last)) := by
  induction goes generalizing state with
  | unfinished =>
      obtain rfl : last = state := answers
      rfl
  | emptyPage call =>
      rw [collectPages, Remote.attempt_bind, call transport answers]
      rfl
  | failed call =>
      rw [collectPages, Remote.attempt_bind, call transport answers]
      rfl
  | @went rounds listing next reached items pages message response pulled sends ending some call
      rest ih =>
      obtain ⟨between, sent, answers⟩ := answers
      have isEmpty : items.isEmpty = false := by simpa using some
      rw [collectPages, Remote.attempt_bind, call transport ⟨between, sent, rfl⟩]
      simp only [isEmpty, Bool.false_eq_true, if_false]
      rw [Remote.attempt_bind, ih answers]
      cases ending <;> rfl

end

/-! ## Callbacks -/

section

variable {callback : α → Remote τ Unit} {own between final : τ}

theorem attempt_handing (item : α) (acts : List (Act α)) (state : σ) :
    (handing callback item).attempt (acts, (own, state)) =
      (((callback item).attempt own).1,
        (acts ++ [.handed item], (((callback item).attempt own).2, state))) := by
  cases ran : callback item own <;> simp [handing, Remote.attempt, ran]

theorem attempt_forM_append (callback : α → Remote τ Unit) (first second : List α) (own : τ) :
    ((first ++ second).forM callback).attempt own =
      match (first.forM callback).attempt own with
      | (.ok (), between) => (second.forM callback).attempt between
      | (.error error, final) => (.error error, final) := by
  simp only [List.forM_eq_forM, List.forM_append, Remote.attempt_bind]
  rcases (forM first callback).attempt own with ⟨_ | ⟨⟩, between⟩
  · rfl
  · rfl

theorem succeeds_append {first second : List α}
    (succeeds : ((first ++ second).forM callback).attempt own = (.ok (), final)) :
    ∃ between, (first.forM callback).attempt own = (.ok (), between) ∧
      (second.forM callback).attempt between = (.ok (), final) := by
  rw [attempt_forM_append] at succeeds
  rcases front : (first.forM callback).attempt own with ⟨_ | ⟨⟩, between⟩
  · rw [front] at succeeds
    exact nomatch congrArg Prod.fst succeeds
  · rw [front] at succeeds
    exact ⟨between, rfl, succeeds⟩

theorem attempt_forM_singleton (callback : α → Remote τ Unit) (item : α) (own : τ) :
    ([item].forM callback).attempt own = (callback item).attempt own := by
  rw [List.forM, Remote.attempt_bind]
  rcases (callback item).attempt own with ⟨_ | ⟨⟩, final⟩
  · rfl
  · rfl

theorem forM_handing {items : List α}
    (succeeds : (items.forM callback).attempt own = (.ok (), final)) (listing : Listing kind)
    (acts : List (Act α)) (state : σ) :
    (items.forM fun item => Remote.onSecond (handing callback item)).attempt
        (listing, (acts, (own, state))) =
      (.ok (), (listing, (acts ++ items.map .handed, (final, state)))) := by
  induction items generalizing own acts with
  | nil =>
      obtain rfl : own = final := congrArg Prod.snd succeeds
      rw [List.map_nil, List.append_nil]
      rfl
  | cons item items ih =>
      have succeeds : (([item] ++ items).forM callback).attempt own = (.ok (), final) := succeeds
      obtain ⟨between, first, others⟩ := succeeds_append succeeds
      rw [attempt_forM_singleton] at first
      rw [List.forM, Remote.attempt_bind, Remote.attempt_onSecond, attempt_handing, first]
      simp only [ih others, List.map_cons, List.append_assoc, List.singleton_append]

private theorem forM_handing_failed {front rest : List α} {item : α} {error : Error}
    (succeeds : (front.forM callback).attempt own = (.ok (), between))
    (fails : (callback item).attempt between = (.error error, final)) (listing : Listing kind)
    (acts : List (Act α)) (state : σ) :
    ((front ++ item :: rest).forM fun item => Remote.onSecond (handing callback item)).attempt
        (listing, (acts, (own, state))) =
      (.error error,
        (listing, (acts ++ (front.map .handed ++ [.handed item]), (final, state)))) := by
  rw [attempt_forM_append, forM_handing succeeds, List.forM]
  simp only
  rw [Remote.attempt_bind, Remote.attempt_onSecond, attempt_handing, fails, List.append_assoc]

/-! ## Visits -/

variable {page : Pager kind α} {rounds : Nat} {listing reached : Listing kind}
  {pages : List (List α)} {sends : List (Http.Request × Exchange)} {ending : Ending}
  {transport : Transport σ} {state last : σ}

/-- A loop that hands items to a callback with a state of its own. -/
def visitLogged (page : Pager kind α) (callback : α → Remote τ Unit) (transport : Transport σ)
    (rounds : Nat) : Remote (Listing kind × List (Act α) × τ × σ) Bool :=
  visitPages (page (logged transport.onSecond)) (handing callback) rounds

theorem ComesTo.page_logged {result : Except Error (List α)}
    (call : ComesTo page listing sends result reached)
    (answers : transport.Answers sends state last) (acts : List (Act α)) (own : τ) :
    (page (logged transport.onSecond)).attempt (listing, (acts, (own, state))) =
      (result, (reached, (acts ++ sends.map .sent, (own, last)))) :=
  call _ (answers_logged acts (answers_onSecond own answers))

theorem attempt_visitLogged {items : List α} {next : Listing kind} {middle : σ}
    {send : Http.Request × Exchange} (some : items ≠ [])
    (call : ComesTo page listing [send] (.ok items) next)
    (sent : transport.send send.1 state = (send.2, middle))
    (succeeds : (items.forM callback).attempt own = (.ok (), between)) (acts : List (Act α)) :
    (visitLogged page callback transport (rounds + 1)).attempt (listing, (acts, (own, state))) =
      (visitLogged page callback transport rounds).attempt
        (next, (acts ++ (.sent send :: items.map .handed), (between, middle))) := by
  have ran := Remote.ok_of_attempt (call.page_logged ⟨middle, sent, rfl⟩ acts own)
  rw [visitLogged, attempt_visitPages_of_page some ran, forM_handing succeeds, List.append_assoc]
  rfl

theorem Goes.visitLogged_of_ok (goes : Goes page rounds listing pages sends ending reached)
    (answers : transport.Answers sends state last)
    (succeeds : (pages.flatten.forM callback).attempt own = (.ok (), final)) (acts : List (Act α)) :
    ∃ new, (visitLogged page callback transport rounds).attempt (listing, (acts, (own, state))) =
        (ending.visited, (reached, (acts ++ new, (final, last)))) ∧
      Act.sends new = sends ∧ Act.items new = pages.flatten := by
  -- One page after the other: its request, its items, and then what the later pages add.
  induction goes generalizing own state acts with
  | unfinished =>
      obtain rfl : last = state := answers
      obtain rfl : own = final := congrArg Prod.snd succeeds
      refine ⟨[], ?_, rfl, rfl⟩
      rw [List.append_nil]
      rfl
  | @emptyPage rounds listing reached sends call =>
      obtain rfl : own = final := congrArg Prod.snd succeeds
      refine ⟨sends.map .sent, ?_, Act.sends_map_sent sends, Act.items_map_sent sends⟩
      rw [visitLogged, visitPages, Remote.attempt_bind, call.page_logged answers]
      rfl
  | @failed rounds listing reached sends error call =>
      obtain rfl : own = final := congrArg Prod.snd succeeds
      refine ⟨sends.map .sent, ?_, Act.sends_map_sent sends, Act.items_map_sent sends⟩
      rw [visitLogged, visitPages, Remote.attempt_bind, call.page_logged answers]
      rfl
  | @went rounds listing next reached items pages message response pulled sends ending some call
      rest ih =>
      obtain ⟨middle, sent, answers⟩ := answers
      obtain ⟨between, first, others⟩ := succeeds_append succeeds
      obtain ⟨new, run, same, handed⟩ := ih answers others
        (acts ++ (.sent (message, ⟨.ok response, pulled⟩) :: items.map .handed))
      refine ⟨.sent (message, ⟨.ok response, pulled⟩) :: items.map .handed ++ new, ?_, ?_, ?_⟩
      · rw [attempt_visitLogged some call sent first, run, List.append_assoc]
      · rw [Act.sends_page, same]
      · rw [Act.items_page, handed, List.flatten_cons]

private theorem later_or_within {first second front rest : List α} {item : α}
    (split : first ++ second = front ++ item :: rest) :
    (∃ later, front = first ++ later ∧ second = later ++ item :: rest) ∨
      ∃ unvisited, first = front ++ item :: unvisited := by
  rcases List.append_eq_append_iff.mp split with ⟨later, front, second⟩ | ⟨within, first, others⟩
  · exact .inl ⟨later, front, second⟩
  · cases within with
    | nil => exact .inl ⟨[], by simpa using first.symm, others.symm⟩
    | cons other unvisited =>
        cases others
        exact .inr ⟨unvisited, first⟩

/--
A callback that fails at an item has been handed the items before it, and is handed nothing after
it; nothing more is sent either.  The listing is left where the calls for the pages up to that of
the item leave it.
-/
theorem Goes.visitLogged_of_error
    (goes : Goes page rounds listing pages sends ending reached)
    (answers : transport.Answers sends state last) {front rest : List α} {item : α} {error : Error}
    (split : pages.flatten = front ++ item :: rest)
    (succeeds : (front.forM callback).attempt own = (.ok (), between))
    (fails : (callback item).attempt between = (.error error, final)) (acts : List (Act α)) :
    ∃ before opened unvisited after sentYet reachedYet lastYet new,
      pages = before ++ (opened ++ item :: unvisited) :: after ∧
      front = before.flatten ++ opened ∧
      Goes page (before.length + 1) listing (before ++ [opened ++ item :: unvisited]) sentYet
        .unfinished reachedYet ∧
      transport.Answers sentYet state lastYet ∧ sentYet <+: sends ∧
      (visitLogged page callback transport rounds).attempt (listing, (acts, (own, state))) =
        (.error error, (reachedYet, (acts ++ (new ++ [.handed item]), (final, lastYet)))) ∧
      Act.sends new = sentYet ∧ Act.items new = front := by
  induction goes generalizing own state acts front with
  | unfinished => exact absurd split (by simp)
  | emptyPage => exact absurd split (by simp)
  | failed => exact absurd split (by simp)
  | @went rounds listing next reached items pages message response pulled sends ending some call
      goes ih =>
      obtain ⟨middle, sent, answers⟩ := answers
      rw [List.flatten_cons] at split
      -- Either the callback succeeds on this whole page, or the item is one of its items.
      rcases later_or_within split with ⟨later, rfl, others⟩ | ⟨unvisited, rfl⟩
      case inl =>
        obtain ⟨halfway, first, succeeds⟩ := succeeds_append succeeds
        obtain ⟨before, opened, unvisited, after, sentYet, reachedYet, lastYet, new, rfl, rfl, goes,
          answered, earlier, run, same, handed⟩ := ih answers others succeeds
          (acts ++ (.sent (message, ⟨.ok response, pulled⟩) :: items.map .handed))
        refine ⟨items :: before, opened, unvisited, after, _, reachedYet, lastYet,
          .sent (message, ⟨.ok response, pulled⟩) :: items.map .handed ++ new, rfl, ?_,
          .went some call goes, ⟨middle, sent, answered⟩, List.prefix_cons_inj _ |>.mpr earlier,
          ?_, ?_, ?_⟩
        · rw [List.flatten_cons, List.append_assoc]
        · rw [attempt_visitLogged some call sent first, run]
          simp only [List.append_assoc]
        · rw [Act.sends_page, same]
        · rw [Act.items_page, handed]
      case inr =>
        have ran := Remote.ok_of_attempt (call.page_logged ⟨middle, sent, rfl⟩ acts own)
        refine ⟨[], front, unvisited, pages, [(message, ⟨.ok response, pulled⟩)], next, middle,
          .sent (message, ⟨.ok response, pulled⟩) :: front.map .handed ++ [], rfl, rfl,
          .went some call .unfinished, ⟨middle, sent, rfl⟩, ⟨sends, rfl⟩, ?_,
          Act.sends_page _ front [], ?_⟩
        · rw [visitLogged, attempt_visitPages_of_page some ran, forM_handing_failed succeeds fails]
          simp only [List.map_cons, List.map_nil, List.append_assoc, List.cons_append,
            List.nil_append]
        · exact (Act.items_page _ front []).trans (List.append_nil front)

end

/-! ## The calls for a page -/

/-- Whether a call sends the request for its page, unless the listing ended, and goes by what is
read from the answer. -/
structure GoesByAnswer (page : Pager kind α) (detailed : Bool)
    (read : Listing kind → Http.Response → Except Error (List α) × Listing kind) : Prop where
  ended : ∀ ⦃σ : Type⦄ (transport : Transport σ) ⦃listing : Listing kind⦄ (state : σ),
    listing.position = .exhausted →
    (page transport).attempt (listing, state) = (.ok [], (listing, state))
  going : ∀ ⦃σ : Type⦄ (transport : Transport σ) ⦃listing : Listing kind⦄ ⦃marker : String⦄
    (state : σ), listing.position = .after marker →
    (page transport).attempt (listing, state) =
      match ((listing.request marker none detailed).execute transport
          listing.site.endpoint).attempt state with
      | (.error error, next) => (.error error, (listing, next))
      | (.ok response, next) => ((read listing response).1, ((read listing response).2, next))

private theorem isPager_of_goesByAnswer {page : Pager kind α} {detailed : Bool}
    {read : Listing kind → Http.Response → Except Error (List α) × Listing kind}
    (goes : GoesByAnswer page detailed read) : IsPager page := by
  intro σ transport listing state
  cases position : listing.position with
  | exhausted =>
      refine ⟨[], .ok [], listing, state, rfl, ?_, ?_⟩
      · rintro τ other before after answers
        obtain rfl : after = before := answers
        exact goes.ended other after position
      · rintro items ⟨⟩ some
        exact absurd rfl some
  | after marker =>
  cases written : (listing.request marker none detailed).written listing.site.endpoint with
  | error error =>
      refine ⟨[], .error error, listing, state, rfl, ?_, nofun⟩
      rintro τ other before after answers
      obtain rfl : after = before := answers
      rw [goes.going other after position,
        Remote.attempt_of_error (Request.execute_of_unwritten written)]
  | ok message =>
  obtain ⟨exchange, last, sent⟩ : ∃ exchange last,
      transport.send message state = (exchange, last) := ⟨_, _, rfl⟩
  obtain ⟨result, fails, executed⟩ := Request.exists_executed written exchange
  have answers : transport.Answers [(message, exchange)] state last := ⟨last, sent, rfl⟩
  cases result with
  | error error =>
      refine ⟨_, .error error, listing, last, answers, ?_, nofun⟩
      intro τ other before after answers
      rw [goes.going other before position, executed other answers]
  | ok response =>
      refine ⟨_, (read listing response).1, (read listing response).2, last, answers, ?_, ?_⟩
      · intro τ other before after answers
        rw [goes.going other before position, executed other answers]
      · intro items _ _
        obtain ⟨error | answer, pulled⟩ := exchange
        · exact nomatch fails error rfl
        · exact ⟨message, answer, pulled, rfl⟩

def readNames (listing : Listing kind) (response : Http.Response) :
    Except Error (List (Handle kind)) × Listing kind :=
  match namesGiven listing.scope false response with
  | .error error => (.error error, listing)
  | .ok names => (.ok (names.map listing.handle), listing.goneTo (positionAfter names))

private theorem goesByAnswer_nextPage :
    GoesByAnswer (fun _ transport => nextPage transport none : Pager kind (Handle kind)) false
      readNames where
  ended σ transport listing state ended :=
    attempt_page_exhausted ended transport ⟨none, false⟩ state
  going σ transport listing marker state going := by
    refine (attempt_page going transport ⟨none, false⟩ state).trans ?_
    rcases ((listing.request marker none false).execute transport
      listing.site.endpoint).attempt state with ⟨_ | response, next⟩
    · rfl
    · unfold readNames
      dsimp only
      cases namesGiven listing.scope false response <;> rfl

def readRecords (listing : Listing kind) (response : Http.Response) :
    Except Error (List (Handle kind × Details kind)) × Listing kind :=
  match (do
    let records ← recordsOf listing.scope (← pageContent response)
    return (records, ← detailsFrom 0 records)) with
  | .error error => (.error error, listing)
  | .ok (records, details) =>
      (.ok (details.map fun (name, details) => (listing.handle name, details)),
        listing.goneTo (positionAfter (records.map Record.name)))

private theorem goesByAnswer_nextPageDetailed :
    GoesByAnswer (fun _ transport => nextPageDetailed transport none :
      Pager kind (Handle kind × Details kind)) true readRecords where
  ended σ transport listing state ended := by
    obtain ⟨site, scope, beginning, options, position⟩ := listing
    obtain rfl : position = .exhausted := ended
    rfl
  going σ transport listing marker state going := by
    rw [nextPageDetailed, Remote.attempt_bind, Remote.attempt_get]
    dsimp only
    rw [Remote.attempt_bind, attempt_nextRecords going]
    rcases ((listing.request marker none true).execute transport
      listing.site.endpoint).attempt state with ⟨_ | response, next⟩
    · rfl
    unfold readRecords
    cases read : pageContent response with
    | error error => simp only [read, bind, Except.bind]
    | ok content =>
    cases listed : recordsOf listing.scope content with
    | error error => simp only [read, listed, bind, Except.bind]
    | ok records =>
    cases given : detailsFrom 0 records with
    | error error => simp only [read, listed, given, bind, Except.bind]
    | ok details =>
        simp only [read, listed, given, bind, Except.bind]
        rfl

/-! ## Loops agree -/

/-- A call for a page, and the loops over a listing that go with it. -/
structure Loops (kind : Kind) (α : Type) where
  page : Pager kind α
  collect : ⦃σ : Type⦄ → Transport σ → Nat → Remote (Listing kind × σ) (Option (List α))
  foreach : ⦃σ : Type⦄ → Transport σ → (α → Remote σ Unit) → Nat → Remote (Listing kind × σ) Bool

namespace Loops

def plain : Loops kind (Handle kind) where
  page _ transport := nextPage transport none
  collect _ := Listing.collect
  foreach _ := Listing.foreach

def detailed : Loops kind (Handle kind × Details kind) where
  page _ transport := nextPageDetailed transport none
  collect _ := collectDetailed
  foreach _ := foreachDetailed

/--
What calls for page after page come to, and what the loops make of it.  Up to the first empty page
or the first error, calls give `pages`.  To collect gives the items of these; a callback that does
not fail is handed them in their order, and one that fails is handed none after the first item that
it fails at, when no further page has been asked for.
-/
structure Agree (loops : Loops kind α) (transport : Transport σ) (listing : Listing kind)
    (rounds : Nat) (state : σ) (pages : List (List α)) (ending : Ending)
    (sends : List (Http.Request × Exchange)) (reached : Listing kind) (last : σ) : Prop where
  filled : ∀ items ∈ pages, items ≠ []
  called : calls loops.page (logged transport) (pages.length + (ending.answers (α := α)).length)
      (listing, (([] : List (Act α)), state)) =
    (pages.map .ok ++ ending.answers, (reached, (sends.map .sent, last)))
  unfinished : ending = .unfinished → pages.length = rounds
  finishes : ∀ count, transport.AnswersAtMost count state → count < rounds → ending ≠ .unfinished
  collects : (loops.collect (logged transport) rounds).attempt
      (listing, (([] : List (Act α)), state)) =
    (ending.collected pages.flatten, (reached, (sends.map .sent, last)))
  visits : ∀ ⦃τ : Type⦄ (callback : α → Remote τ Unit) (own final : τ),
    (pages.flatten.forM callback).attempt own = (.ok (), final) →
    ∃ acts, (loops.foreach (logged transport.onSecond) (handing callback) rounds).attempt
        (listing, ([], (own, state))) = (ending.visited, (reached, (acts, (final, last)))) ∧
      Act.sends acts = sends ∧ Act.items acts = pages.flatten
  stops : ∀ ⦃τ : Type⦄ (callback : α → Remote τ Unit) (own between final : τ) (front rest : List α)
      (item : α) (error : Error), pages.flatten = front ++ item :: rest →
    (front.forM callback).attempt own = (.ok (), between) →
    (callback item).attempt between = (.error error, final) →
    ∃ before opened unvisited after sentYet reachedYet lastYet acts,
      pages = before ++ (opened ++ item :: unvisited) :: after ∧
      front = before.flatten ++ opened ∧ sentYet <+: sends ∧
      calls loops.page (logged transport) (before.length + 1)
          (listing, (([] : List (Act α)), state)) =
        ((before ++ [opened ++ item :: unvisited]).map .ok,
          (reachedYet, (sentYet.map .sent, lastYet))) ∧
      (loops.foreach (logged transport.onSecond) (handing callback) rounds).attempt
          (listing, ([], (own, state))) =
        (.error error, (reachedYet, (acts ++ [.handed item], (final, lastYet)))) ∧
      Act.sends acts = sentYet ∧ Act.items acts = front

theorem exists_agree {loops : Loops kind α} (pager : IsPager loops.page)
    (collects : ∀ ⦃σ : Type⦄ (transport : Transport σ) (rounds : Nat),
      loops.collect transport rounds = collectPages (loops.page transport) rounds)
    (visits : ∀ ⦃σ : Type⦄ (transport : Transport σ) (visit : α → Remote σ Unit) (rounds : Nat),
      loops.foreach transport visit rounds = visitPages (loops.page transport) visit rounds)
    (transport : Transport σ) (listing : Listing kind) (rounds : Nat) (state : σ) :
    ∃ pages ending sends reached last,
      loops.Agree transport listing rounds state pages ending sends reached last := by
  obtain ⟨pages, sends, ending, reached, last, answers, goes⟩ :=
    exists_goes pager transport rounds listing state
  have recorded := answers_logged (α := α) [] answers
  refine ⟨pages, ending, sends, reached, last, goes.pages_ne_nil, goes.calls_eq recorded,
    fun unfinished => (goes.of_unfinished unfinished).1, fun _ => goes.ending_ne_unfinished answers,
      ?_, ?_, ?_⟩
  · rw [collects]
    exact goes.collectPages_eq recorded
  · intro τ callback own final succeeds
    obtain ⟨acts, run, sent, handed⟩ := goes.visitLogged_of_ok answers succeeds []
    rw [visits]
    exact ⟨acts, run, sent, handed⟩
  · intro τ callback own between final front rest item error split succeeds fails
    obtain ⟨before, opened, unvisited, after, sentYet, reachedYet, lastYet, acts, hpages, hfront,
      goesYet, answersYet, earlier, run, sent, handed⟩ :=
      goes.visitLogged_of_error answers split succeeds fails []
    have called := goesYet.calls_eq (answers_logged (α := α) [] answersYet)
    rw [visits]
    refine ⟨before, opened, unvisited, after, sentYet, reachedYet, lastYet, acts, hpages, hfront,
      earlier, ?_, run, sent, handed⟩
    simpa [Ending.answers] using called

end Loops

end Listing

private theorem Script.outcome_none_ne_ok (read : Reading) (response : Http.Response) :
    outcome read none ≠ .ok response := by
  unfold outcome
  split
  · exact nofun
  · exact nofun
  · next given => exact nomatch given

theorem Script.answersAtMost_length (script : Script) :
    Script.transport.AnswersAtMost script.answers.length script := by
  intro sends last answers answered
  induction sends generalizing script with
  | nil => exact Nat.zero_le _
  | cons send rest ih =>
      obtain ⟨next, sent, answers⟩ := answers
      obtain ⟨⟨response, ok⟩, others⟩ := List.forall_mem_cons.mp answered
      have fewer := ih next answers others
      have left : next.answers = script.answers.drop 1 :=
        (congrArg (fun outcome => outcome.2.answers) sent).symm
      have some : script.answers ≠ [] := by
        intro none
        have outcome : Script.outcome _ script.answers.head? = send.2.result :=
          congrArg (fun outcome => outcome.1.result) sent
        rw [none, ok] at outcome
        exact Script.outcome_none_ne_ok _ response outcome
      have := List.length_pos_iff.mpr some
      rw [left, List.length_drop] at fewer
      rw [List.length_cons]
      omega

namespace Listing

/--
All loops over a listing go by what repeated calls for a page come to, up to the first empty one or
the first error.
-/
theorem loops_agree (transport : Transport σ) (listing : Listing kind) (rounds : Nat) (state : σ) :
    (∃ pages ending sends reached last,
      Loops.plain.Agree transport listing rounds state pages ending sends reached last) ∧
    (∃ pages ending sends reached last,
      Loops.detailed.Agree transport listing rounds state pages ending sends reached last) ∧
    ∀ script : Script, Script.transport.AnswersAtMost script.answers.length script := by
  refine ⟨?plain, ?detailed, Script.answersAtMost_length⟩
  case plain =>
    exact Loops.exists_agree (isPager_of_goesByAnswer goesByAnswer_nextPage) (fun _ _ _ => rfl)
      (fun _ _ _ _ => rfl) transport listing rounds state
  case detailed =>
    exact Loops.exists_agree (isPager_of_goesByAnswer goesByAnswer_nextPageDetailed)
      (fun _ _ _ => rfl) (fun _ _ _ _ => rfl) transport listing rounds state

/-- A callback that fails at the second of two containers has been handed the first. -/
theorem loops_agree_shelf :
    ∃ (acts : List (Act Container)) (first second : Container) (error : Error)
      (reached : Listing .container),
      (foreach (logged (singleServer ["a", "b"]).onSecond) (handing (failsAt "b")) 3).attempt
          (shelf none .none, ([], ((), ()))) =
        (.error error, (reached, (acts ++ [.handed second], ((), ())))) ∧
      Act.items acts = [first] ∧ first.place = .container "a" ∧ second.place = .container "b" := by
  obtain ⟨⟨pages, ending, sends, reached, last, agree⟩, -⟩ :=
    loops_agree (singleServer ["a", "b"]) (shelf none .none) 3 ()
  have collected : ((collect (logged (α := Container) (singleServer ["a", "b"])) 3).attempt
      (shelf none .none, ([], ()))).1.toOption.join.map (List.map Handle.place) =
        some [.container "a", .container "b"] := by
    decide +kernel
  have run := agree.collects
  change (collect _ 3).attempt _ = _ at run
  rw [run] at collected
  match ending with
  | .failed error => exact nomatch collected
  | .unfinished => exact nomatch collected
  | .emptyPage =>
  obtain ⟨first, others, items, isFirst, rest⟩ := List.map_eq_cons_iff.mp (Option.some.inj collected)
  obtain ⟨second, none, rfl, isSecond, nil⟩ := List.map_eq_cons_iff.mp rest
  obtain rfl := List.map_eq_nil_iff.mp nil
  have succeeds : ([first].forM (failsAt "b")).attempt () = (.ok (), ()) := by
    rw [attempt_forM_singleton, failsAt, isFirst]
    rfl
  have fails : (failsAt "b" second).attempt () =
      (.error (.invalidRequest (.stated "stop")), ()) := by
    rw [failsAt, isSecond]
    rfl
  obtain ⟨_, _, _, _, _, reached, _, acts, -, -, -, -, stopped, -, handed⟩ :=
    agree.stops (failsAt "b") () () () [first] [] second _ items succeeds fails
  exact ⟨acts, first, second, _, reached, stopped, handed, isFirst, isSecond⟩

end Listing

end ObjectStorage
