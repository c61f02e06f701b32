import ObjectStorage.Proofs.Headers.Names
import ObjectStorage.Proofs.Listing.Runs
import ObjectStorage.Proofs.Runs

/-!
# Positions of listings

Whatever a backend answers, a call for a page moves the listing only once the whole page has been
read: to after its last name, or to the end if it has none.  A call that fails leaves the listing
where it was, so that making it again asks for the same page.
-/

namespace ObjectStorage.Listing

variable {kind : Kind} {σ : Type}

/-! ## What is asked for -/

/-- The parameters that make out a page, which take precedence over those of the caller. -/
def overrides (listing : Listing kind) (marker : String) (call : PageCall) :
    List (String × String) :=
  (if call.detailed then [("format", "json")] else []) ++
  (call.limit.map fun limit => ("limit", Integer.writeNat limit.toNat)).toList ++
  (if listing.beginning = "" then [] else [("prefix", listing.beginning)]) ++
  if marker = "" then [] else [("marker", marker)]

/-- What the request of a page says. -/
structure Asks (listing : Listing kind) (marker : String) (call : PageCall)
    (message : Http.Request) : Prop where
  method : message.method = .get
  body : message.body = .empty
  parameters : ∃ located values,
    (listing.request "" none false).bare.url listing.site.endpoint = .ok located ∧
    message.parameters = located.parameters ++ Dictionary.toList values ∧
    ∀ key, values.get? key =
      ((overrides listing marker call).lookup key).or (listing.options.values.get? key)
  headers : ∃ headers : Headers, headers.toFields = .ok message.fields ∧
    ∀ name, headers.get? name =
      if call.detailed = true ∧ Headers.canonicalName name = "Accept" then some "application/json"
      else listing.options.headers.get? name

private theorem get?_pageOptions (listing : Listing kind) (marker : String) (call : PageCall)
    (key : String) :
    (listing.pageOptions marker call.limit call.detailed).values.get? key =
      ((overrides listing marker call).lookup key).or (listing.options.values.get? key) := by
  have text (name value : String) (options : Options) :
      (withText name value options).values.get? key =
        ((if value = "" then [] else [(name, value)]).lookup key).or (options.values.get? key) := by
    rw [get?_withText]
    by_cases hvalue : value = ""
    · simp [hvalue]
    · by_cases hkey : key = name <;> simp [hvalue, hkey]
  have limit (options : Options) : (withLimit call.limit options).values.get? key =
      ((call.limit.map fun limit => ("limit", Integer.writeNat limit.toNat)).toList.lookup key).or
        (options.values.get? key) := by
    rw [get?_withLimit]
    cases call.limit with
    | none => rfl
    | some limit => by_cases hkey : key = "limit" <;> simp [hkey]
  have details (options : Options) : (withDetails call.detailed options).values.get? key =
      ((if call.detailed then [("format", "json")] else []).lookup key).or
        (options.values.get? key) := by
    rw [get?_withDetails]
    by_cases hkey : key = "format" <;> cases call.detailed <;> simp [hkey]
  simp only [pageOptions, overrides, details, limit, text, List.lookup_append, Option.or_assoc]

private theorem get?_pageHeaders (listing : Listing kind) (marker : String) (call : PageCall)
    (name : String) :
    (listing.pageOptions marker call.limit call.detailed).headers.get? name =
      if call.detailed = true ∧ Headers.canonicalName name = "Accept" then some "application/json"
      else listing.options.headers.get? name := by
  have text (key value : String) (options : Options) :
      (withText key value options).headers = options.headers := by
    unfold withText
    split <;> rfl
  have limit (options : Options) : (withLimit call.limit options).headers = options.headers := by
    cases call.limit <;> rfl
  have accept : Headers.canonicalName "Accept" = "Accept" := by decide +kernel
  cases hdetailed : call.detailed with
  | false => simp [pageOptions, withDetails, limit, text]
  | true =>
      simp only [pageOptions, withDetails, if_true, Options.withHeader, Options.withValue,
        Headers.get?_set, limit, text, accept, true_and]

private theorem asks_of_pageMessage {listing : Listing kind} {marker : String} {call : PageCall}
    {message : Http.Request}
    (written : listing.pageMessage marker call.limit call.detailed = .ok message) :
    Asks listing marker call message := by
  obtain ⟨url, hurl, hmessage⟩ := ok_of_bind written
  obtain ⟨located, hlocated, parameters⟩ := Request.parameters_of_message hurl hmessage
  exact ⟨Request.method_of_written written, Request.body_of_written written,
    ⟨located, _, hlocated, parameters, get?_pageOptions listing marker call⟩,
    ⟨_, Request.fields_of_message hmessage, get?_pageHeaders listing marker call⟩⟩

/-! ## What is answered -/

/-- The time at which an object was last modified, as a record states it. -/
def Record.stated? : Record kind → Option String
  | .container _ _ _ => none
  | .object _ _ _ _ lastModified => some lastModified

def Record.IsReadable (record : Record kind) : Prop :=
  ∀ text, record.stated? = some text → Time.Iso8601.read? text ≠ none

/-- What a request of a page comes to: the names that it gives, or why it gives none. -/
inductive Answered (listing : Listing kind) : Bool → Exchange → Except Error (List String) → Prop
  | unanswered {detailed : Bool} {error : Error} {pulled : Nat} :
      Answered listing detailed ⟨.error error, pulled⟩ (.error error)
  | unexpected {detailed : Bool} {response : Http.Response} {pulled : Nat}
      {unexpected : UnexpectedStatus} (ok : response.status ≠ .ok)
      (noContent : response.status ≠ .noContent) (actual : unexpected.actual = response.status) :
      Answered listing detailed ⟨.ok response, pulled⟩ (.error (.unexpectedStatus unexpected))
  | unread {detailed : Bool} {response : Http.Response} {pulled : Nat} {fault : IoFault}
      (status : response.status = .ok) (unread : response.body.read = .error (.io fault)) :
      Answered listing detailed ⟨.ok response, pulled⟩ (.error (.io fault))
  | undrained {detailed : Bool} {response : Http.Response} {pulled : Nat} {fault : IoFault}
      (status : response.status = .noContent)
      (undrained : response.body.drain = .error (.io fault)) :
      Answered listing detailed ⟨.ok response, pulled⟩ (.error (.io fault))
  | malformed {response : Http.Response} {pulled : Nat} {content : Bytes}
      (read : pageContent response = .ok content) (some : content ≠ [])
      (malformed : (Json.parse? content).bind listing.scope.records? = none) :
      Answered listing true ⟨.ok response, pulled⟩ (.error (.badResponse .malformedListing))
  | undated {response : Http.Response} {pulled : Nat} {content : Bytes}
      {before after : List (Record kind)} {record : Record kind} {text : String}
      (read : pageContent response = .ok content)
      (listed : recordsOf listing.scope content = .ok (before ++ record :: after))
      (readable : ∀ earlier ∈ before, earlier.IsReadable) (stated : record.stated? = some text)
      (undated : Time.Iso8601.read? text = none) :
      Answered listing true ⟨.ok response, pulled⟩
        (.error (.badResponse (.lastModified text before.length)))
  | named {response : Http.Response} {pulled : Nat} {content : Bytes}
      (read : pageContent response = .ok content) :
      Answered listing false ⟨.ok response, pulled⟩ (.ok (namesOf content))
  | recorded {response : Http.Response} {pulled : Nat} {content : Bytes}
      {records : List (Record kind)} (read : pageContent response = .ok content)
      (listed : recordsOf listing.scope content = .ok records)
      (readable : ∀ record ∈ records, record.IsReadable) :
      Answered listing true ⟨.ok response, pulled⟩ (.ok (records.map Record.name))

def namesGiven (scope : Scope kind) (detailed : Bool) (response : Http.Response) :
    Except Error (List String) := do
  let content ← pageContent response
  if detailed then
    let records ← recordsOf scope content
    let _ ← detailsFrom 0 records
    return records.map Record.name
  else return namesOf content

private theorem Record.details_cases (position : Nat) (record : Record kind) :
    (∃ details, record.details position = .ok details ∧ record.IsReadable) ∨
    ∃ text, record.stated? = some text ∧ Time.Iso8601.read? text = none ∧
      record.details position = .error (.lastModified text position) := by
  cases record with
  | container name count bytes => exact .inl ⟨_, rfl, nofun⟩
  | object name bytes contentType hash lastModified =>
      cases read : Time.Iso8601.read? lastModified with
      | none => exact .inr ⟨lastModified, rfl, read, by simp [details, read]⟩
      | some time =>
          refine .inl ⟨.object bytes contentType hash time, by simp [details, read], ?_⟩
          rintro text ⟨⟩
          simp [read]

private theorem detailsFrom_cases (position : Nat) (records : List (Record kind)) :
    (∃ details, detailsFrom position records = .ok details ∧
      ∀ record ∈ records, record.IsReadable) ∨
    ∃ before record after text, records = before ++ record :: after ∧
      (∀ earlier ∈ before, earlier.IsReadable) ∧ record.stated? = some text ∧
      Time.Iso8601.read? text = none ∧
      detailsFrom position records =
        .error (.badResponse (.lastModified text (position + before.length))) := by
  induction records generalizing position with
  | nil => exact .inl ⟨[], rfl, List.forall_mem_nil _⟩
  | cons record rest ih =>
      unfold detailsFrom
      rcases record.details_cases position with
        ⟨first, details, readable⟩ | ⟨text, stated, unread, details⟩
      · rw [details]
        rcases ih (position + 1) with
          ⟨others, details, all⟩ | ⟨before, failed, after, text, rfl, all, stated, unread, details⟩
        · refine .inl ⟨(record.name, first) :: others, ?_, ?_⟩
          · rw [details]
            rfl
          · exact List.forall_mem_cons.mpr ⟨readable, all⟩
        · refine .inr ⟨record :: before, failed, after, text, rfl,
            List.forall_mem_cons.mpr ⟨readable, all⟩, stated, unread, ?_⟩
          rw [details, List.length_cons, Nat.add_assoc, Nat.add_comm 1]
          rfl
      · refine .inr ⟨[], record, rest, text, rfl, List.forall_mem_nil _, stated, unread, ?_⟩
        rw [details]
        rfl

private theorem pageContent_cases {response : Http.Response}
    (status : response.status = .ok ∨ response.status = .noContent) :
    (∃ content, pageContent response = .ok content) ∨
    ∃ fault, pageContent response = .error (.io fault) ∧
      (response.status = .ok ∧ response.body.read = .error (.io fault) ∨
        response.status = .noContent ∧ response.body.drain = .error (.io fault)) := by
  unfold pageContent
  rcases status with ok | noContent
  · rw [if_neg (by rw [ok]; decide)]
    rcases response.body.read_cases with ⟨content, read⟩ | ⟨fault, unread⟩
    · exact .inl ⟨content, read⟩
    · exact .inr ⟨fault, unread, .inl ⟨ok, unread⟩⟩
  · rw [if_pos noContent]
    rcases response.body.drain_cases with drained | ⟨fault, undrained⟩
    · refine .inl ⟨[], ?_⟩
      rw [drained]
      rfl
    · refine .inr ⟨fault, ?_, .inr ⟨noContent, undrained⟩⟩
      rw [undrained]
      rfl

private theorem recordsOf_cases (scope : Scope kind) (content : Bytes) :
    (∃ records, recordsOf scope content = .ok records) ∨
    recordsOf scope content = .error (.badResponse .malformedListing) ∧ content ≠ [] ∧
      (Json.parse? content).bind scope.records? = none := by
  unfold recordsOf
  split
  · exact .inl ⟨[], rfl⟩
  · next some =>
    split
    · exact .inl ⟨_, rfl⟩
    · next malformed => exact .inr ⟨rfl, by simpa using some, malformed⟩

private theorem answered_namesGiven (listing : Listing kind) (detailed : Bool)
    {response : Http.Response}
    (pulled : Nat) (status : response.status = .ok ∨ response.status = .noContent) :
    Answered listing detailed ⟨.ok response, pulled⟩
      (namesGiven listing.scope detailed response) := by
  unfold namesGiven
  rcases pageContent_cases status with ⟨content, read⟩ | ⟨fault, unread, cause⟩
  · rw [read]
    cases detailed with
    | false => exact .named read
    | true =>
        rcases recordsOf_cases listing.scope content with
          ⟨records, listed⟩ | ⟨refused, some, malformed⟩
        · rcases detailsFrom_cases 0 records with
            ⟨details, all, readable⟩ | ⟨before, record, after, text, rfl, readable, stated, undated,
              refused⟩
          · have given : Answered listing true ⟨.ok response, pulled⟩ _ :=
              .recorded read listed readable
            simpa [bind, Except.bind, pure, Except.pure, listed, all] using given
          · have given : Answered listing true ⟨.ok response, pulled⟩ _ :=
              .undated read listed readable stated undated
            simpa [bind, Except.bind, listed, refused] using given
        · have given : Answered listing true ⟨.ok response, pulled⟩ _ :=
            .malformed read some malformed
          simpa [bind, Except.bind, refused] using given
  · rw [unread]
    rcases cause with ⟨ok, unread⟩ | ⟨noContent, undrained⟩
    · exact .unread ok unread
    · exact .undrained noContent undrained

/-! ## One call -/

section

variable {listing : Listing kind} {marker : String}

theorem attempt_fetch (going : listing.position = .after marker) (transport : Transport σ)
    (limit : Option UInt64) (detailed : Bool) (state : σ) :
    (fetch transport limit detailed).attempt (listing, state) =
      match ((listing.request marker limit detailed).execute transport
          listing.site.endpoint).attempt state with
      | (.error error, next) => (.error error, (listing, next))
      | (.ok response, next) => ((pageContent response).map some, (listing, next)) := by
  unfold fetch
  rw [Remote.attempt_bind, Remote.attempt_get]
  simp only [going, Remote.attempt_bind, Remote.attempt_onSecond, Remote.attempt_ofExcept]
  rcases ((listing.request marker limit detailed).execute transport
    listing.site.endpoint).attempt state with ⟨_ | response, next⟩
  · rfl
  · dsimp only
    cases pageContent response <;> rfl

private theorem attempt_nextNames (going : listing.position = .after marker)
    (transport : Transport σ) (limit : Option UInt64) (state : σ) :
    (nextNames transport limit).attempt (listing, state) =
      match ((listing.request marker limit false).execute transport
          listing.site.endpoint).attempt state with
      | (.error error, next) => (.error error, (listing, next))
      | (.ok response, next) =>
          match pageContent response with
          | .error error => (.error error, (listing, next))
          | .ok content =>
              (.ok (namesOf content), (listing.goneTo (positionAfter (namesOf content)), next)) := by
  unfold nextNames
  rw [Remote.attempt_bind, attempt_fetch going]
  rcases ((listing.request marker limit false).execute transport
    listing.site.endpoint).attempt state with ⟨_ | response, next⟩
  · rfl
  · dsimp only
    cases pageContent response <;> rfl

theorem attempt_nextRecords (going : listing.position = .after marker) (transport : Transport σ)
    (limit : Option UInt64) (state : σ) :
    (nextRecords transport limit).attempt (listing, state) =
      match ((listing.request marker limit true).execute transport
          listing.site.endpoint).attempt state with
      | (.error error, next) => (.error error, (listing, next))
      | (.ok response, next) =>
          match pageContent response with
          | .error error => (.error error, (listing, next))
          | .ok content =>
              match recordsOf listing.scope content with
              | .error error => (.error error, (listing, next))
              | .ok records =>
                  match detailsFrom 0 records with
                  | .error error => (.error error, (listing, next))
                  | .ok details =>
                      (.ok details,
                        (listing.goneTo (positionAfter (records.map Record.name)), next)) := by
  unfold nextRecords
  rw [Remote.attempt_bind, attempt_fetch going]
  rcases ((listing.request marker limit true).execute transport
    listing.site.endpoint).attempt state with ⟨_ | response, next⟩
  · rfl
  · dsimp only
    cases pageContent response with
    | error error => rfl
    | ok content =>
    dsimp only [Except.map]
    rw [Remote.attempt_bind, Remote.attempt_get]
    dsimp only
    rw [Remote.attempt_bind, Remote.attempt_ofExcept]
    cases recordsOf listing.scope content with
    | error error => rfl
    | ok records =>
    dsimp only
    rw [Remote.attempt_bind, Remote.attempt_ofExcept]
    cases detailsFrom 0 records <;> rfl

/-- A page moves the listing once its names have been read. -/
theorem attempt_page (going : listing.position = .after marker) (transport : Transport σ)
    (call : PageCall) (state : σ) :
    (call.page transport).attempt (listing, state) =
      match ((listing.request marker call.limit call.detailed).execute transport
          listing.site.endpoint).attempt state with
      | (.error error, next) => (.error error, (listing, next))
      | (.ok response, next) =>
          match namesGiven listing.scope call.detailed response with
          | .error error => (.error error, (listing, next))
          | .ok names =>
              (.ok (names.map listing.handle), (listing.goneTo (positionAfter names), next)) := by
  obtain ⟨limit, detailed⟩ := call
  cases detailed with
  | false =>
      simp only [PageCall.page, Bool.false_eq_true, if_false, nextPage, namesGiven,
        Remote.attempt_bind, Remote.attempt_get, attempt_nextNames going]
      rcases ((listing.request marker limit false).execute transport
        listing.site.endpoint).attempt state with ⟨_ | response, next⟩
      · rfl
      · dsimp only
        cases pageContent response <;> rfl
  | true =>
      simp only [PageCall.page, if_true, nextPageDetailed, namesGiven, Remote.attempt_map,
        Remote.attempt_bind, Remote.attempt_get, attempt_nextRecords going]
      rcases ((listing.request marker limit true).execute transport
        listing.site.endpoint).attempt state with ⟨_ | response, next⟩
      · rfl
      dsimp only
      cases pageContent response with
      | error error => rfl
      | ok content =>
      cases listed : recordsOf listing.scope content with
      | error error => simp only [listed, bind, Except.bind, Except.map]
      | ok records =>
      cases details : detailsFrom 0 records with
      | error error => simp only [listed, details, bind, Except.bind, Except.map]
      | ok details =>
          simp only [listed, details, bind, Except.bind, ← names_of_details details]
          simp [Remote.attempt, pure, EStateM.pure, Except.pure, Except.map, Function.comp_def]

theorem attempt_page_exhausted (ended : listing.position = .exhausted) (transport : Transport σ)
    (call : PageCall) (state : σ) :
    (call.page transport).attempt (listing, state) = (.ok [], (listing, state)) := by
  obtain ⟨limit, detailed⟩ := call
  obtain ⟨site, scope, beginning, options, position⟩ := listing
  obtain rfl : position = .exhausted := ended
  cases detailed <;> rfl

end

/-- What one call does to the listing. -/
inductive Move : Listing kind → Turn kind → Listing kind → Prop
  | ended {listing : Listing kind} {call : PageCall} (ended : listing.position = .exhausted) :
      Move listing ⟨call, .ok [], []⟩ listing
  | unwritten {listing : Listing kind} {marker : String} {call : PageCall} {error : Error}
      (going : listing.position = .after marker)
      (unwritten : listing.pageMessage marker call.limit call.detailed = .error error) :
      Move listing ⟨call, .error error, []⟩ listing
  | failed {listing : Listing kind} {marker : String} {call : PageCall} {message : Http.Request}
      {exchange : Exchange} {error : Error} (going : listing.position = .after marker)
      (written : listing.pageMessage marker call.limit call.detailed = .ok message)
      (failed : Answered listing call.detailed exchange (.error error)) :
      Move listing ⟨call, .error error, [(message, exchange)]⟩ listing
  | given {listing : Listing kind} {marker : String} {call : PageCall} {message : Http.Request}
      {exchange : Exchange} {names : List String} (going : listing.position = .after marker)
      (written : listing.pageMessage marker call.limit call.detailed = .ok message)
      (given : Answered listing call.detailed exchange (.ok names)) :
      Move listing ⟨call, .ok (names.map listing.handle), [(message, exchange)]⟩
        (listing.goneTo (positionAfter names))

private theorem accept_cases (listing : Listing kind) (marker : String) (limit : Option UInt64)
    (detailed : Bool) (url : Url) (response : Http.Response) :
    (response.status = .ok ∨ response.status = .noContent) ∧
      (listing.request marker limit detailed).accept url response = .ok response ∨
    ∃ unexpected : UnexpectedStatus, response.status ≠ .ok ∧ response.status ≠ .noContent ∧
      unexpected.actual = response.status ∧
      (listing.request marker limit detailed).accept url response =
        .error (.unexpectedStatus unexpected) := by
  by_cases status : response.status = .ok ∨ response.status = .noContent
  · refine .inl ⟨status, ?_⟩
    rcases status with status | status <;> simp [Request.accept, Request.isExpected, request, status]
  · obtain ⟨ok, noContent⟩ := not_or.mp status
    refine .inr ⟨⟨.get, url.text, [.ok, .noContent], response.status,
      Request.snippetOf response.body⟩, ok, noContent, rfl, ?_⟩
    simp [Request.accept, Request.isExpected, request, ok, noContent]

theorem turn_move (transport : Transport σ) (call : PageCall) (state : Listing kind × σ) :
    Move state.1 (call.turn transport state).1 (call.turn transport state).2.1 := by
  obtain ⟨listing, state⟩ := state
  unfold PageCall.turn
  cases going : listing.position with
  | exhausted =>
      simp only [attempt_page_exhausted going]
      exact .ended going
  | after marker =>
  simp only [attempt_page going, Request.attempt_execute]
  cases written : listing.pageMessage marker call.limit call.detailed with
  | error error =>
      simp only [Request.exchange_of_unwritten written]
      exact .unwritten going written
  | ok message =>
  cases sent : transport.send message state with
  | mk exchange next =>
  obtain ⟨url, -, run⟩ := Request.exchange_of_written written (observed_send [] sent)
  obtain ⟨result, pulled⟩ := exchange
  simp only [run]
  cases result with
  | error error => exact .failed going written .unanswered
  | ok response =>
  simp only [Except.bind]
  rcases accept_cases listing marker call.limit call.detailed url response with
    ⟨status, accepted⟩ | ⟨unexpected, ok, noContent, actual, refused⟩
  · have answered := answered_namesGiven listing call.detailed pulled status
    rw [accepted]
    dsimp only
    cases given : namesGiven listing.scope call.detailed response with
    | error error => exact .failed going written (given ▸ answered)
    | ok names => exact .given going written (given ▸ answered)
  · rw [refused]
    exact .failed going written (.unexpected ok noContent actual)

/-! ## Runs -/

def Scope.nameOf : Scope kind → Place kind → String
  | .containers, .container name => name
  | .objects _, .object _ name => name

@[simp] theorem nameOf_place (listing : Listing kind) (name : String) :
    listing.scope.nameOf (listing.handle name).place = name := by
  unfold handle
  cases listing.scope <;> rfl

@[simp] theorem goneTo_scope (listing : Listing kind) (position : Position) :
    (listing.goneTo position).scope = listing.scope := rfl

@[simp] theorem goneTo_goneTo (listing : Listing kind) (first second : Position) :
    (listing.goneTo first).goneTo second = listing.goneTo second := rfl

def deliveredNames (scope : Scope kind) (run : List (Turn kind)) : List String :=
  (delivered run).map fun item => scope.nameOf item.place

/-- Where calls leave a listing: at the end once an empty page was given, and till then after the
last name that was delivered. -/
structure Reaches (listing : Listing kind) (run : List (Turn kind)) (reached : Listing kind) :
    Prop where
  same : reached = listing.goneTo reached.position
  ended : listing.position = .exhausted ∨ (∃ turn ∈ run, turn.result = .ok []) →
    reached.position = .exhausted
  going : ∀ marker, listing.position = .after marker → (∀ turn ∈ run, turn.result ≠ .ok []) →
    reached.position = .after ((deliveredNames listing.scope run).getLast?.getD marker)

def messages (listing : Listing kind) (call : PageCall) : List Http.Request :=
  match listing.position with
  | .exhausted => []
  | .after marker => (listing.pageMessage marker call.limit call.detailed).toOption.toList

/-- What a call does to the listing, whatever it sends is answered with. -/
structure Moves (transport : Transport σ) (listing : Listing kind) (turn : Turn kind)
    (next : Listing kind) : Prop where
  failed : ∀ error, turn.result = .error error → next = listing
  repeated : ∀ error, turn.result = .error error → ∀ state,
    (turn.call.turn transport (next, state)).1.sends.map Prod.fst = turn.sends.map Prod.fst
  given : ∀ page item, turn.result = .ok page → page.getLast? = some item →
    ∃ name, item = listing.handle name ∧ next = listing.goneTo (.after name)
  ended : turn.result = .ok [] → next = listing.goneTo .exhausted
  silent : listing.position = .exhausted → turn.result = .ok [] ∧ turn.sends = []
  unsent : ∀ marker, listing.position = .after marker → turn.sends = [] → ∃ error,
    listing.pageMessage marker turn.call.limit turn.call.detailed = .error error ∧
    turn.result = .error error
  single : turn.sends.length ≤ 1
  asked : ∀ send ∈ turn.sends, ∃ marker, listing.position = .after marker ∧
    Asks listing marker turn.call send.1
  answered : ∀ send ∈ turn.sends, ∃ names, Answered listing turn.call.detailed send.2 names ∧
    turn.result = names.map fun names => names.map listing.handle

section

variable {listing next : Listing kind} {turn : Turn kind}

private theorem Move.map_fst_sends (move : Move listing turn next) :
    turn.sends.map Prod.fst = listing.messages turn.call := by
  unfold Listing.messages
  cases move with
  | ended ended => simp [ended]
  | unwritten going unwritten => simp [going, unwritten, Except.toOption]
  | failed going written => simp [going, written, Except.toOption]
  | given going written => simp [going, written, Except.toOption]

theorem positionAfter_of_last {names : List String} {name : String}
    (last : names.getLast? = some name) : positionAfter names = .after name := by
  rw [positionAfter, last]

theorem goneTo_self {position : Position} (h : listing.position = position) :
    listing.goneTo position = listing := by
  cases listing
  cases h
  rfl

theorem Move.moves_turn (move : Move listing turn next) (transport : Transport σ) :
    Moves transport listing turn next where
  failed error failed := by
    cases move with
    | ended => cases failed
    | unwritten => rfl
    | failed => rfl
    | given => cases failed
  repeated error failed state := by
    have same : next = listing := by
      cases move with
      | ended => rfl
      | unwritten => rfl
      | failed => rfl
      | given => cases failed
    subst same
    rw [(turn_move transport turn.call (next, state)).map_fst_sends, move.map_fst_sends]
    rfl
  given page item given last := by
    cases move with
    | ended =>
        cases given
        cases last
    | unwritten => cases given
    | failed => cases given
    | given going written answered =>
        cases given
        rw [List.getLast?_map, Option.map_eq_some_iff] at last
        obtain ⟨name, last, rfl⟩ := last
        exact ⟨name, rfl, by rw [positionAfter_of_last last]⟩
  ended empty := by
    cases move with
    | ended ended => exact (goneTo_self ended).symm
    | unwritten => cases empty
    | failed => cases empty
    | @given marker call message exchange names =>
        obtain rfl : names = [] := by simpa using empty
        rfl
  silent ended := by
    cases move with
    | ended => exact ⟨rfl, rfl⟩
    | unwritten going => cases ended.symm.trans going
    | failed going => cases ended.symm.trans going
    | given going => cases ended.symm.trans going
  unsent marker going unsent := by
    cases move with
    | ended ended => cases ended.symm.trans going
    | unwritten here unwritten =>
        cases here.symm.trans going
        exact ⟨_, unwritten, rfl⟩
    | failed => cases unsent
    | given => cases unsent
  single := by cases move <;> simp
  asked send sent := by
    cases move with
    | ended => cases sent
    | unwritten => cases sent
    | failed going written =>
        obtain rfl := List.mem_singleton.mp sent
        exact ⟨_, going, asks_of_pageMessage written⟩
    | given going written =>
        obtain rfl := List.mem_singleton.mp sent
        exact ⟨_, going, asks_of_pageMessage written⟩
  answered send sent := by
    cases move with
    | ended => cases sent
    | unwritten => cases sent
    | failed going written answered =>
        obtain rfl := List.mem_singleton.mp sent
        exact ⟨_, answered, rfl⟩
    | given going written answered =>
        obtain rfl := List.mem_singleton.mp sent
        exact ⟨_, answered, rfl⟩

theorem deliveredNames_cons (scope : Scope kind) (run : List (Turn kind)) :
    deliveredNames scope (turn :: run) =
      (turn.result.toOption.getD []).map (fun item => scope.nameOf item.place) ++
        deliveredNames scope run := by
  simp [deliveredNames, delivered]

private theorem Reaches.after_error {run : List (Turn kind)} {reached : Listing kind}
    (rest : Reaches listing run reached) {error : Error} (failed : turn.result = .error error) :
    Reaches listing (turn :: run) reached := by
  refine ⟨rest.same, ?_, ?_⟩
  · simpa [failed] using rest.ended
  · simpa [failed, deliveredNames_cons, Except.toOption] using rest.going

private theorem Reaches.after_page {run : List (Turn kind)} {reached : Listing kind}
    {names : List String}
    (rest : Reaches (listing.goneTo (positionAfter names)) run reached) {marker : String}
    (here : listing.position = .after marker)
    (given : turn.result = .ok (names.map listing.handle)) :
    Reaches listing (turn :: run) reached := by
  refine ⟨rest.same, ?_, ?_⟩
  · rintro (ended | ⟨other, among, empty⟩)
    · cases here.symm.trans ended
    rcases List.mem_cons.mp among with rfl | among
    · obtain rfl : names = [] := by simpa [given] using empty
      exact rest.ended (.inl rfl)
    · exact rest.ended (.inr ⟨other, among, empty⟩)
  · intro other going nonempty
    obtain ⟨first, nonempty⟩ := List.forall_mem_cons.mp nonempty
    cases last : names.getLast? with
    | none =>
        rw [given, List.getLast?_eq_none_iff.mp last] at first
        exact absurd rfl first
    | some name =>
        have reached := rest.going name (positionAfter_of_last last) nonempty
        rw [goneTo_scope] at reached
        rw [reached, deliveredNames_cons, given]
        simp [Except.toOption, Function.comp_def, List.getLast?_append, last]

private theorem Move.reaches_cons (move : Move listing turn next) {run : List (Turn kind)}
    {reached : Listing kind} (rest : Reaches next run reached) :
    Reaches listing (turn :: run) reached := by
  cases move with
  | ended ended =>
      refine ⟨rest.same, fun _ => rest.ended (.inl ended), ?_⟩
      intro marker going
      cases ended.symm.trans going
  | unwritten => exact rest.after_error rfl
  | failed => exact rest.after_error rfl
  | given going => exact rest.after_page going rfl

end

theorem reaches_of_path {listing reached : Listing kind} {run : List (Turn kind)}
    (path : Path Move listing run reached) : Reaches listing run reached := by
  induction path with
  | refl listing =>
      refine ⟨(goneTo_self rfl).symm, ?_, fun marker going _ => going⟩
      rintro (ended | ⟨turn, among, -⟩)
      · exact ended
      · cases among
  | next move _ ih => exact move.reaches_cons ih

/--
After any calls for pages, the listing is after the last name that they gave, or at its end once
they gave an empty page.  One more call moves it on only if it gives a page; whatever it sends is
a request for the page after that name, and made again after an error it sends the same.
-/
theorem page_moves (transport : Transport σ) (listing : Listing kind) (earlier : List PageCall)
    (call : PageCall) (state : σ) :
    ∃ run reached between turn next last,
      earlier.mapM (PageCall.turn transport) (listing, state) = (run, (reached, between)) ∧
      call.turn transport (reached, between) = (turn, (next, last)) ∧
      run.map Turn.call = earlier ∧ turn.call = call ∧
      Reaches listing run reached ∧ Moves transport reached turn next := by
  have path := path_of_views (turn_move transport) earlier (listing, state)
  have calls : (earlier.mapM (PageCall.turn transport) (listing, state)).1.map Turn.call = earlier :=
    calls_of_turns (fun _ _ => rfl) earlier (listing, state)
  generalize earlier.mapM (PageCall.turn transport) (listing, state) = outcome at path calls ⊢
  obtain ⟨run, reached, between⟩ := outcome
  exact ⟨run, reached, between, _, _, _, rfl, rfl, calls, rfl, reaches_of_path path,
    (turn_move transport call (reached, between)).moves_turn transport⟩

end ObjectStorage.Listing
