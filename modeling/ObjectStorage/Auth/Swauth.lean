import ObjectStorage.Auth.Authenticator
import ObjectStorage.Url.Parser

/-!
# Authentication with user and key

One request to the auth endpoint opens a session: a token and the storage URL of the account.  The
session is part of the state, opened when it is first needed and opened anew when its token is
rejected; a token rejected earlier is answered with that of the session.
-/

namespace ObjectStorage

structure Session where
  token : String
  storageUrl : Url
  deriving DecidableEq

structure Swauth where
  authUrl : Url
  user : String
  key : String
  deriving DecidableEq

namespace Swauth

/-! ## One exchange -/

def target (swauth : Swauth) : Except Error Http.Uri :=
  match Http.Uri.parse swauth.authUrl.text with
  | .ok uri => .ok uri
  | .error fault => .error (.config (.notAuthUri swauth.authUrl.text fault))

/-- A text as the value of a field, or the fault that it cannot be one. -/
def sendable (text : String) (fault : ConfigFault) : Except Error Bytes :=
  match Http.fieldValue? text with
  | some value => .ok value
  | none => .error (.config fault)

def request (swauth : Swauth) : Except Error Http.Request := do
  let uri ← swauth.target
  let user ← sendable swauth.user .unsendableUser
  let key ← sendable swauth.key .unsendableKey
  let fields := (Http.Fields.none.replace "x-auth-user" user).replace "x-auth-key" key
  return ⟨.get, uri, .http11, fields, .empty⟩

/-- The first value of a field, if it is a text that is not empty. -/
def fieldText? (fields : Http.Fields) (name : String) : Option String :=
  ((fields.first? name).bind Http.visibleText?).filter fun text => text ≠ ""

/-- The session that a drained answer opens. -/
def open? (swauth : Swauth) (status : Http.Status) (fields : Http.Fields) :
    Except AuthFault Session :=
  if status = .unauthorized ∨ status = .forbidden then .error (.rejected swauth.user status)
  else if !status.isSuccess then .error (.answered swauth.authUrl.text status)
  else match (fieldText? fields "x-auth-token").or (fieldText? fields "x-storage-token") with
    | none => .error .noToken
    | some token =>
        match fieldText? fields "x-storage-url" with
        | none => .error .noStorageUrl
        | some text =>
            match Url.parse text with
            | .ok storageUrl => .ok ⟨token, storageUrl⟩
            | .error fault => .error (.invalidStorageUrl text fault)

def readAnswer (swauth : Swauth) (response : Http.Response) : Except Error Session := do
  response.body.drain
  (swauth.open? response.status response.fields).mapError .auth

variable {σ : Type}

def authenticate (swauth : Swauth) (transport : Transport σ) : Remote σ Session := do
  let request ← Remote.ofExcept swauth.request
  let response ← transport.request request
  Remote.ofExcept (swauth.readAnswer response)

/-! ## The session in the state -/

/-- Opens a new session in the place of the one there is. -/
def renew (swauth : Swauth) (transport : Transport σ) : Remote (Option Session × σ) Session := do
  let session ← Remote.onSecond (swauth.authenticate transport)
  modify fun (_, state) => (some session, state)
  return session

/-- The session there is, or a new one if there is none. -/
def session (swauth : Swauth) (transport : Transport σ) : Remote (Option Session × σ) Session := do
  match (← get).1 with
  | some session => return session
  | none => swauth.renew transport

/-- The session there is if its token is another than the rejected one, or else a new one. -/
def sessionAfter (swauth : Swauth) (transport : Transport σ) (rejected : String) :
    Remote (Option Session × σ) Session := do
  match (← get).1 with
  | some session => if session.token ≠ rejected then return session else swauth.renew transport
  | none => swauth.renew transport

def storageUrl (swauth : Swauth) (transport : Transport σ) : Remote (Option Session × σ) Url :=
  (·.storageUrl) <$> swauth.session transport

def authenticator (swauth : Swauth) (transport : Transport σ) :
    Authenticator (Option Session × σ) where
  token := (·.token) <$> swauth.session transport
  reauthenticate rejected := (·.token) <$> swauth.sessionAfter transport rejected

end Swauth

end ObjectStorage
