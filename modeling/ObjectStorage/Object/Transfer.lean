import ObjectStorage.Digest.Md5
import ObjectStorage.Object.Basic

/-!
# Uploads and downloads

An upload goes with the length and the checksum of its content where these are known before.  Of a
streamed upload the checksum is taken from the chunks while they are read, and compared with the
one that the server reports.
-/

namespace ObjectStorage.Object

variable {σ : Type}

/-! ## Uploads -/

def withLength (content : Bytes) (headers : Headers) : Headers :=
  if ObjectField.sizeBytes.exists? headers then headers
  else ObjectField.sizeBytes.set (UInt64.ofNat content.length) headers

def withChecksum (content : Bytes) (headers : Headers) : Headers :=
  if ObjectField.etag.exists? headers then headers
  else ObjectField.etag.set (Md5.hex content) headers

/-- The headers of an upload: length and checksum are added for content that is at hand. -/
def uploadHeaders (body : Body) (headers : Headers) : Headers :=
  match body.content? with
  | some content => withChecksum content (withLength content headers)
  | none => headers

/-- The chunks whose checksum is taken while they are read. -/
def hashedChunks? (body : Body) (headers : Headers) : Option (List Bytes) :=
  match body with
  | .stream source => if ObjectField.etag.exists? headers then none else some source.chunks
  | _ => none

def checksum (chunks : List Bytes) : String :=
  Md5.closeHex (chunks.foldl Md5.absorb Md5.initial)

/-- The checksum that the server reports, without quotes. -/
def reportedChecksum (fields : Http.Fields) : String :=
  Text.trimString (· = '"') (((fields.first? "etag").bind Http.visibleText?).getD "")

/-- Compares the checksum of what was read of a stream with the one reported. -/
def verify (hashed : Option (List Bytes)) (pulled : Nat) (fields : Http.Fields) :
    Except Error Unit :=
  match hashed with
  | none => .ok ()
  | some chunks =>
      let expected := checksum (chunks.take pulled)
      let actual := reportedChecksum fields
      if expected = actual then .ok () else .error (.checksumMismatch expected actual)

/-- How an upload ended, and how many chunks of its stream were read. -/
structure Uploaded where
  result : Except Error Unit
  pulled : Nat

def put (object : Object) (body : Body) (options : Options) : Request :=
  { object.request .put { options with headers := uploadHeaders body options.headers } [.created]
    with body }

def uploading (transport : Transport σ) (body : Body) (options : Options) :
    StateM (Object × σ) Uploaded := fun (object, state) =>
  let (exchange, state) :=
    (object.put body options).exchange transport object.site.endpoint state
  match exchange.result with
  | .error error => (⟨.error error, exchange.pulled⟩, (object, state))
  | .ok response =>
      let hashed := hashedChunks? body options.headers
      (⟨verify hashed exchange.pulled response.fields, exchange.pulled⟩,
        (object.invalidated, state))

def upload (transport : Transport σ) (body : Body) (options : Options) :
    Remote (Object × σ) Unit := do
  let uploaded ← Remote.ofState (uploading transport body options)
  Remote.ofExcept uploaded.result

/-! ## Downloads -/

structure Download where
  headers : Headers
  body : Body
  deriving DecidableEq

def Download.text (download : Download) : Except Error String := do
  let content ← download.body.read
  (Utf8.decode content).mapError fun fault => .badResponse (.notText fault)

def download (transport : Transport σ) (options : Options) : Remote (Object × σ) Download := do
  let (object, _) ← get
  let response ← Handle.execute transport
    { object.request .get options [.ok] with drains := false }
  return ⟨← Handle.keep response, response.body⟩

end ObjectStorage.Object
