import ObjectStorage.Transport

/-!
# Authenticators

An authenticator gives the token for the next request, and a new one for a token that the server
rejected.
-/

namespace ObjectStorage

structure Authenticator (σ : Type) where
  token : Remote σ String
  /-- A token in the place of the rejected one. -/
  reauthenticate : String → Remote σ String

namespace Authenticator

variable {σ τ : Type}

/-- A token obtained elsewhere, which cannot be renewed. -/
def static (token : String) : Authenticator σ where
  token := pure token
  reauthenticate _ := throw (.auth .notRenewable)

def onSecond (authenticator : Authenticator σ) : Authenticator (τ × σ) where
  token := Remote.onSecond authenticator.token
  reauthenticate rejected := Remote.onSecond (authenticator.reauthenticate rejected)

end Authenticator

end ObjectStorage
