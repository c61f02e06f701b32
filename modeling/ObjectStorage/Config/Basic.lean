import ObjectStorage.Error.Basic
import ObjectStorage.Settings

/-!
# Configurations

Where the account is, who the user is, and how the client behaves.  Variables of the environment
take precedence over what a file says, and an address with a token over a user with a key.
-/

namespace ObjectStorage

structure Config where
  authUrl : Option String
  user : Option String
  key : Option String
  storageUrl : Option String
  token : Option String
  userAgent : Option String
  timeoutSeconds : Option UInt64
  settings : Settings
  deriving DecidableEq, Repr

inductive Credentials where
  | user (authUrl user key : String)
  | token (storageUrl token : String)
  deriving DecidableEq, Repr

namespace Config

def standard : Config := ⟨none, none, none, none, none, none, none, .standard⟩

/-- The value of a variable, or what there was before if the variable is not set or empty. -/
def overridden (environment : String → Option String) (name : String)
    (before : Option String) : Option String :=
  ((environment name).filter fun value => value ≠ "").or before

def override (config : Config) (environment : String → Option String) : Config :=
  { config with
    authUrl := overridden environment "ST_AUTH" config.authUrl
    user := overridden environment "ST_USER" config.user
    key := overridden environment "ST_KEY" config.key
    storageUrl := overridden environment "OS_STORAGE_URL" config.storageUrl
    token := overridden environment "OS_AUTH_TOKEN" config.token }

def userCredentials (config : Config) : Except ConfigFault Credentials :=
  match config.authUrl, config.user, config.key with
  | some authUrl, some user, some key => .ok (.user authUrl user key)
  | none, none, none =>
      if config.storageUrl.isSome || config.token.isSome then .error .halfToken
      else .error .noCredentials
  | _, _, _ => .error .halfUser

def credentials (config : Config) : Except ConfigFault Credentials :=
  match config.storageUrl, config.token with
  | some storageUrl, some token => .ok (.token storageUrl token)
  | _, _ => config.userCredentials

/-- Whether the configuration can be used to connect. -/
def validate (config : Config) : Except ConfigFault Unit := do
  let _ ← config.credentials
  if config.settings.bulkDeleteBatchSize = 0 then throw .noBatchSize
  if config.settings.writerChannelCapacity = 0 then throw .noChannelCapacity

end Config

end ObjectStorage
