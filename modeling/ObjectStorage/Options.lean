import ObjectStorage.Headers.Basic

/-!
# Options of a request

Headers and query values that the caller adds to a request.
-/

namespace ObjectStorage

structure Options where
  headers : Headers
  /-- The query values by their keys. -/
  values : Dictionary String
  deriving DecidableEq

namespace Options

def none : Options := ⟨Headers.empty, Dictionary.empty⟩

def withHeader (options : Options) (name value : String) : Options :=
  { options with headers := options.headers.set name value }

def withValue (options : Options) (key value : String) : Options :=
  { options with values := options.values.insert key value }

/-- Adds headers, which take precedence over those that the options have. -/
def extend (options : Options) (headers : Headers) : Options :=
  { options with headers := options.headers.extend headers }

end Options

def Headers.toOptions (headers : Headers) : Options := ⟨headers, Dictionary.empty⟩

end ObjectStorage
