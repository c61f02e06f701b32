import ObjectStorage.Account
import ObjectStorage.Auth.Authorized
import ObjectStorage.Auth.Swauth
import ObjectStorage.Config.Basic

/-!
# Connecting

From a configuration to an account and to a transport that carries the token.  The session with
the auth endpoint is part of the state; with a token from the configuration it stays closed.
-/

namespace ObjectStorage

structure Connection (σ : Type) where
  account : Account
  transport : Transport (Option Session × σ)

namespace Connection

variable {σ : Type}

def readUrl (text : String) : Except Error Url :=
  match Url.parse text with
  | .ok url => .ok url
  | .error fault => .error (.config (.notUrl text fault))

def authenticate (transport : Transport σ) : Credentials →
    Remote (Option Session × σ) (Url × Authenticator (Option Session × σ))
  | .token storageUrl token => do
      let endpoint ← Remote.ofExcept (readUrl storageUrl)
      return (endpoint, .static token)
  | .user authUrl user key => do
      let swauth : Swauth := ⟨← Remote.ofExcept (readUrl authUrl), user, key⟩
      let endpoint ← swauth.storageUrl transport
      return (endpoint, swauth.authenticator transport)

def connectOver (config : Config) (transport : Transport σ) :
    Remote (Option Session × σ) (Connection σ) := do
  let credentials ← Remote.ofExcept (config.credentials.mapError .config)
  let (endpoint, authenticator) ← authenticate transport credentials
  let site ← Remote.ofExcept (Site.ofEndpoint endpoint config.settings)
  let userAgent := config.userAgent.getD standardUserAgent
  return ⟨Account.ofSite site, transport.onSecond.authorized authenticator userAgent⟩

def connect (config : Config) (transport : Transport σ) :
    Remote (Option Session × σ) (Connection σ) := do
  Remote.ofExcept (config.validate.mapError .config)
  connectOver config transport

end Connection

end ObjectStorage
