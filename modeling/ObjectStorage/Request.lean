import ObjectStorage.Address
import ObjectStorage.Headers.Wire
import ObjectStorage.Options
import ObjectStorage.Transport
import ObjectStorage.Text.Blank
import ObjectStorage.Url.Parser

/-!
# Requests to an account

A request names a container and an object below an endpoint, and the statuses that it accepts.  It
is made into a message for the wire or refused before anything is sent, and the answer is held
against the accepted statuses.
-/

namespace ObjectStorage

structure Request where
  method : Http.Method
  container : Option String
  object : Option String
  options : Options
  body : Body
  /-- The statuses that are accepted; any, if there are none. -/
  expected : List Http.Status
  /-- Whether the body of an accepted answer is read and dropped. -/
  drains : Bool

namespace Request

/-- A request without body that accepts the statuses and drains the answer. -/
def plain (method : Http.Method) (options : Options) (expected : List Http.Status) : Request :=
  ⟨method, none, none, options, .empty, expected, true⟩

/-! ## Address -/

def path (request : Request) : Except RequestFault String :=
  match request.container, request.object with
  | none, none => .ok ""
  | none, some _ => .error .objectWithoutContainer
  | some container, object => do
      Address.check container object
      return Address.path container object

/-- The text of the endpoint without the slashes at its end. -/
def base (endpoint : Url) : String :=
  String.ofList (Text.trimEnd (· = '/') endpoint.text.toList)

/-- Where the request goes: the endpoint, the path of what is named, and the query values. -/
def address (request : Request) (endpoint : Url) : Except RequestFault Url := do
  let path ← request.path
  let text := base endpoint ++ path
  match Url.parse text with
  | .error fault => throw (.notUrl text fault)
  | .ok url =>
      if request.options.values.isEmpty then return url
      else return url.addPairs request.options.values.toList

def url (request : Request) (endpoint : Url) : Except Error Url :=
  (request.address endpoint).mapError .invalidRequest

def target (url : Url) : Except Error Http.Uri :=
  match Http.Uri.parse url.text with
  | .ok uri => .ok uri
  | .error fault => .error (.invalidRequest (.notUri url.text fault))

def message (request : Request) (url : Url) : Except Error Http.Request := do
  let uri ← target url
  let fields ← request.options.headers.toFields
  return ⟨request.method, uri, .http11, fields, request.body⟩

/-! ## Answer -/

def snippetLength : Nat := 4096

def snippet (content : Bytes) : String :=
  Text.trimBlanks (Utf8.decodeLossy (content.take snippetLength))

/-- What is kept of a body that may fail to be read. -/
def snippetOf (body : Body) : String :=
  match body.read with
  | .ok content => snippet content
  | .error _ => ""

def isExpected (request : Request) (status : Http.Status) : Bool :=
  request.expected.isEmpty || request.expected.contains status

/-- Accepts the answer, and drains it if the request says so. -/
def accept (request : Request) (url : Url) (response : Http.Response) :
    Except Error Http.Response :=
  if !request.isExpected response.status then
    .error (.unexpectedStatus
      ⟨request.method, url.text, request.expected, response.status, snippetOf response.body⟩)
  else if request.drains then do
    response.body.drain
    return { response with body := .empty }
  else .ok response

/-! ## Execution -/

variable {σ : Type}

/-- Sends the request, and says how much of its body was read. -/
def exchange (transport : Transport σ) (endpoint : Url) (request : Request) :
    StateM σ Exchange := do
  match request.url endpoint with
  | .error error => return ⟨.error error, 0⟩
  | .ok url =>
      match request.message url with
      | .error error => return ⟨.error error, 0⟩
      | .ok message =>
          let exchange ← transport.send message
          return { exchange with result := exchange.result.bind (request.accept url) }

def execute (transport : Transport σ) (endpoint : Url) (request : Request) :
    Remote σ Http.Response := do
  let exchange ← Remote.ofState (request.exchange transport endpoint)
  Remote.ofExcept exchange.result

end Request

end ObjectStorage
