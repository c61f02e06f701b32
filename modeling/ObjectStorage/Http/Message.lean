import ObjectStorage.Body
import ObjectStorage.Http.Fields

/-!
# Requests and responses on the wire
-/

namespace ObjectStorage.Http

inductive Version where
  | http09
  | http10
  | http11
  | http2
  | http3
  deriving DecidableEq, Repr

structure Request where
  method : Method
  uri : Uri
  version : Version
  fields : Fields
  body : Body
  deriving DecidableEq

structure Response where
  status : Status
  fields : Fields
  body : Body
  deriving DecidableEq

end ObjectStorage.Http
