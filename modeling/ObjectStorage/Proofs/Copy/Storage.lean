import ObjectStorage.Proofs.Auth.Protocol

/-!
# Servers that store objects

A server keeps contents by account, container and name, and finds these in the path of a request
and in its destination.  What it may do for a copy and for a deletion is all that is known of it;
sending through a transport with tokens, which repeats requests, does not change that.
-/

namespace ObjectStorage

/-- Where a server stores an object. -/
structure Location where
  account : String
  container : String
  name : String
  deriving DecidableEq

namespace Location

/-- The location in an account that segments stand for: the container's, and then the name's. -/
def within? (account : String) (segments : List String) : Option Location := do
  match ← segments.mapM Percent.decode? with
  | container :: first :: rest =>
      some ⟨account, container, String.ofList (Text.join '/' ((first :: rest).map String.toList))⟩
  | _ => none

/-- The location that a path stands for below the root of the accounts. -/
def ofPath? (root : List String) (path : String) : Option Location :=
  match ("" :: root).isPrefixOf? (Text.splitString '/' path) with
  | some (account :: segments) => do within? (← Percent.decode? account) segments
  | _ => none

end Location

namespace Http.Request

/-- The location that a request is about. -/
def place? (root : List String) (message : Http.Request) : Option Location :=
  Location.ofPath? root message.uri.path

/-- The location that a copy goes to: in the account that it names, or else in that of its place. -/
def goal? (root : List String) (message : Http.Request) : Option Location := do
  let origin ← message.place? root
  let destination ← (message.fields.first? "destination").bind Utf8.decode?
  let account ← match message.fields.first? "destination-account" with
    | some account => Utf8.decode? account
    | none => some origin.account
  match Text.splitString '/' destination with
  | "" :: segments => Location.within? account segments
  | _ => none

end Http.Request

variable {σ : Type} {root : List String} {contents : σ → Location → Option Bytes}
  {transport : Transport σ}

/--
A server that stores objects: of its contents, a copy changes at most its goal, where the content of
its place is when the answer says so, and a deletion changes at most its place, where nothing is
when the answer says so.  Nothing is said of what another answer leaves there.
-/
structure Stores (root : List String) (contents : σ → Location → Option Bytes)
    (transport : Transport σ) : Prop where
  copy_keeps {message : Http.Request} {origin goal location : Location} (state : σ) :
    message.method = .copy → message.place? root = some origin → message.goal? root = some goal →
    location ≠ goal → contents (transport.send message state).2 location = contents state location
  copied {message : Http.Request} {origin goal : Location} {response : Http.Response} (state : σ) :
    message.method = .copy → message.place? root = some origin → message.goal? root = some goal →
    origin ≠ goal → (transport.send message state).1.result = .ok response →
    response.status = .created →
    contents (transport.send message state).2 goal = contents state origin
  delete_keeps {message : Http.Request} {place location : Location} (state : σ) :
    message.method = .delete → message.place? root = some place → location ≠ place →
    contents (transport.send message state).2 location = contents state location
  deleted {message : Http.Request} {place : Location} {response : Http.Response} (state : σ) :
    message.method = .delete → message.place? root = some place →
    (transport.send message state).1.result = .ok response → response.status = .noContent →
    contents (transport.send message state).2 place = none

/-! ## With tokens -/

/-- Whether an operation leaves the contents as they are. -/
def Keeps {α : Type} (contents : σ → Location → Option Bytes) (operation : Remote σ α) : Prop :=
  ∀ state, contents (operation.attempt state).2 = contents state

section

variable {userAgent token : String} {request message : Http.Request}

theorem place?_of_signed (signed : IsSigned userAgent token request message) :
    message.place? root = request.place? root := by
  rw [Http.Request.place?, signed.uri, Http.Request.place?]

private theorem goal?_of_signed (signed : IsSigned userAgent token request message) :
    message.goal? root = request.goal? root := by
  obtain ⟨_, _, -, -, fields⟩ := signed.fields
  have kept : ∀ name, name ≠ "x-auth-token" → name ≠ "user-agent" →
      message.fields.first? name = request.fields.first? name := by
    intro name hname hagent
    rw [Http.Fields.first?, Http.Fields.first?, fields, if_neg hname, if_neg hagent]
  unfold Http.Request.goal?
  rw [place?_of_signed signed, kept "destination" (by decide) (by decide),
    kept "destination-account" (by decide) (by decide)]

end

/-- What a request with tokens leaves: nothing was sent, or it was sent once or twice. -/
inductive Relayed (contents : σ → Location → Option Bytes) (transport : Transport σ)
    (userAgent : String) (request : Http.Request) (state : σ) (exchange : Exchange) (last : σ) :
    Prop
  | unsent (kept : contents last = contents state)
      (failed : ∀ response, exchange.result ≠ .ok response) :
      Relayed contents transport userAgent request state exchange last
  | sent {token : String} {message : Http.Request} {before : σ}
      (signed : IsSigned userAgent token request message)
      (kept : contents before = contents state)
      (left : contents last = contents (transport.send message before).2)
      (answered : ∀ response, exchange.result = .ok response →
        (transport.send message before).1.result = .ok response) :
      Relayed contents transport userAgent request state exchange last
  | sentAgain {token fresh : String} {message replay : Http.Request} {before between : σ}
      (signed : IsSigned userAgent token request message)
      (signedAgain : IsSigned userAgent fresh request replay)
      (kept : contents before = contents state)
      (left : contents between = contents (transport.send message before).2)
      (again : transport.send replay between = (exchange, last)) :
      Relayed contents transport userAgent request state exchange last

theorem relayed_of_keeps {authenticator : Authenticator σ}
    (token : Keeps contents authenticator.token)
    (renewal : ∀ rejected, Keeps contents (authenticator.reauthenticate rejected))
    {userAgent : String} {request : Http.Request} {state last : σ} {exchange : Exchange}
    (relay : Relay transport authenticator userAgent request state exchange last) :
    Relayed contents transport userAgent request state exchange last := by
  have given : ∀ {answer next}, authenticator.token.attempt state = (answer, next) →
      contents next = contents state := by
    intro answer next asked
    have := token state
    rwa [asked] at this
  have renews : ∀ {rejected answer later next},
      (authenticator.reauthenticate rejected).attempt later = (answer, next) →
      contents next = contents later := by
    intro rejected answer later next asked
    have := renewal rejected later
    rwa [asked] at this
  cases relay with
  | noToken asked => exact .unsent (given asked) nofun
  | unsendable asked unsigned => exact .unsent (given asked) nofun
  | failed asked signed sent =>
      exact .sent (isSigned_of_withToken signed) (given asked) (by rw [sent]) nofun
  | answered asked signed sent final =>
      refine .sent (isSigned_of_withToken signed) (given asked) (by rw [sent]) fun _ h => ?_
      rw [sent, ← h]
  | undrained asked signed sent rejected undrained =>
      exact .sent (isSigned_of_withToken signed) (given asked) (by rw [sent]) nofun
  | notRenewed asked signed sent rejected drained renewed =>
      exact .sent (isSigned_of_withToken signed) (given asked) (by rw [sent, renews renewed]) nofun
  | unsendableAgain asked signed sent rejected drained renewed unsigned =>
      exact .sent (isSigned_of_withToken signed) (given asked) (by rw [sent, renews renewed]) nofun
  | sentAgain asked signed sent rejected drained renewed signedAgain sentAgain =>
      exact .sentAgain (isSigned_of_withToken signed) (isSigned_of_withToken signedAgain)
        (given asked) (by rw [sent, renews renewed]) sentAgain

section

variable {userAgent : String} {request : Http.Request} {state last : σ} {exchange : Exchange}

/-- Whether no request that says the same, with whatever token, changes what is at the location. -/
def Spares (contents : σ → Location → Option Bytes) (transport : Transport σ) (userAgent : String)
    (request : Http.Request) (location : Location) : Prop :=
  ∀ token message, IsSigned userAgent token request message → ∀ before,
    contents (transport.send message before).2 location = contents before location

theorem Relayed.contents_eq_of_spares {location : Location}
    (relayed : Relayed contents transport userAgent request state exchange last)
    (spares : Spares contents transport userAgent request location) :
    contents last location = contents state location := by
  cases relayed with
  | unsent kept failed => rw [kept]
  | sent signed kept left answered => rw [left, spares _ _ signed, kept]
  | @sentAgain _ _ _ replay _ between signed signedAgain kept left again =>
      have second := spares _ _ signedAgain between
      rw [again] at second
      rw [second, left, spares _ _ signed, kept]

/-- The answer is that to the request that was sent last, before which nothing else was changed. -/
theorem Relayed.exists_isSigned_of_ok {response : Http.Response}
    (relayed : Relayed contents transport userAgent request state exchange last)
    (h : exchange.result = .ok response) :
    ∃ token message before, IsSigned userAgent token request message ∧
      (transport.send message before).1.result = .ok response ∧
      contents last = contents (transport.send message before).2 ∧
      ∀ location, Spares contents transport userAgent request location →
        contents before location = contents state location := by
  cases relayed with
  | unsent kept failed => exact absurd h (failed response)
  | sent signed kept left answered =>
      exact ⟨_, _, _, signed, answered response h, left, fun location _ => by rw [kept]⟩
  | @sentAgain _ _ _ replay _ between signed signedAgain kept left again =>
      refine ⟨_, replay, between, signedAgain, ?_, ?_, fun location spares => ?_⟩
      · rw [again, h]
      · rw [again]
      · rw [left, spares _ _ signed, kept]

end

/-- A server keeps to its contents when asked with tokens, and asked again for rejected ones. -/
theorem Stores.stores_authorized (stores : Stores root contents transport)
    {authenticator : Authenticator σ} (token : Keeps contents authenticator.token)
    (renewal : ∀ rejected, Keeps contents (authenticator.reauthenticate rejected))
    (userAgent : String) :
    Stores root contents (transport.authorized authenticator userAgent) := by
  have ways (request : Http.Request) (state : σ) :
      Relayed contents transport userAgent request state
        ((transport.authorized authenticator userAgent).send request state).1
        ((transport.authorized authenticator userAgent).send request state).2 :=
    relayed_of_keeps token renewal (relay_of_send rfl)
  have copySpares {request : Http.Request} {origin goal location : Location}
      (method : request.method = .copy) (place : request.place? root = some origin)
      (isGoal : request.goal? root = some goal) (apart : location ≠ goal) :
      Spares contents transport userAgent request location := fun _ _ signed before =>
    stores.copy_keeps before (signed.method.trans method) ((place?_of_signed signed).trans place)
      ((goal?_of_signed signed).trans isGoal) apart
  constructor
  case copy_keeps =>
    intro request origin goal location state method place isGoal apart
    exact (ways request state).contents_eq_of_spares (copySpares method place isGoal apart)
  case copied =>
    intro request origin goal response state method place isGoal apart answered created
    obtain ⟨_, _, before, signed, answer, left, kept⟩ :=
      (ways request state).exists_isSigned_of_ok answered
    rw [left, stores.copied before (signed.method.trans method)
      ((place?_of_signed signed).trans place) ((goal?_of_signed signed).trans isGoal) apart answer
      created, kept origin (copySpares method place isGoal apart)]
  case delete_keeps =>
    intro request place location state method isPlace apart
    exact (ways request state).contents_eq_of_spares fun _ _ signed before =>
      stores.delete_keeps before (signed.method.trans method)
        ((place?_of_signed signed).trans isPlace) apart
  case deleted =>
    intro request place response state method isPlace answered noContent
    obtain ⟨_, _, before, signed, answer, left, -⟩ :=
      (ways request state).exists_isSigned_of_ok answered
    rw [left, stores.deleted before (signed.method.trans method)
      ((place?_of_signed signed).trans isPlace) answer noContent]

end ObjectStorage
