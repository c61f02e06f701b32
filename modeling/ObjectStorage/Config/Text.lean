import ObjectStorage.Config.Basic
import ObjectStorage.Toml.Reader
import ObjectStorage.Toml.Writer

/-!
# Configurations as text

A configuration is written in TOML, fields that are not set left out.  Reading takes the fields it
knows; of the values it does not know, it only makes sure that they are numbers that exist.
-/

namespace ObjectStorage.Config

/-! ## Writing -/

def stringEntry (key : String) (value : Option String) : Option (String × Toml.Scalar) :=
  value.map fun value => (key, .string value)

def integerEntry (key : String) (value : Option UInt64) : Option (String × Toml.Scalar) :=
  value.map fun value => (key, .integer value)

def entries (config : Config) : List (String × Toml.Scalar) :=
  [stringEntry "auth_url" config.authUrl, stringEntry "user" config.user,
    stringEntry "key" config.key, stringEntry "storage_url" config.storageUrl,
    stringEntry "token" config.token, stringEntry "user_agent" config.userAgent,
    integerEntry "request_timeout_secs" config.timeoutSeconds].filterMap id

def settingsEntries (settings : Settings) : List (String × Toml.Scalar) :=
  [("bulk_delete_batch_size", .integer settings.bulkDeleteBatchSize),
    ("writer_channel_capacity", .integer settings.writerChannelCapacity)]

def write (config : Config) : String :=
  String.ofList
    (Toml.document config.entries "settings" (settingsEntries config.settings))

/-! ## Reading -/

def string? : Toml → Option String
  | .string text => some text
  | _ => none

def word? : Toml → Option UInt64
  | .integer (some value) =>
      if 0 ≤ value ∧ value ≤ Integer.maxWord then some (UInt64.ofNat value.toNat) else none
  | _ => none

mutual

/-- Whether all numbers in the value exist in 128 or, with a fraction, 64 bits. -/
def exists? : Toml → Bool
  | .integer none => false
  | .integer (some value) => -Int.ofNat (Nat.pow 2 127) ≤ value && value < Int.ofNat (Nat.pow 2 128)
  | .float tooLarge => !tooLarge
  | .array items => allExist items
  | .table _ entries => allExistIn entries
  | .tables list => allExistInAll list
  | _ => true

def allExist : List Toml → Bool
  | [] => true
  | item :: rest => exists? item && allExist rest

def allExistIn : List (String × Toml) → Bool
  | [] => true
  | (_, value) :: rest => exists? value && allExistIn rest

def allExistInAll : List (List (String × Toml)) → Bool
  | [] => true
  | entries :: rest => allExistIn entries && allExistInAll rest

end

/-- Whether the entries with other keys than the known ones can be passed over. -/
def unknownExist (known : List String) (entries : Toml.Entries) : Bool :=
  allExistIn (entries.filter fun entry => !known.contains entry.1)

/-- The value under the key; none of a value is given if the key is absent. -/
def optional? {α : Type} (read? : Toml → Option α) (value : Option Toml) : Option (Option α) :=
  match value with
  | none => some none
  | some value => (read? value).map some

def withDefault? (fallback : UInt64) (value : Option Toml) : Option UInt64 :=
  match value with
  | none => some fallback
  | some value => word? value

/-- Settings from their values, the standard where there is none. -/
def settingsOf? (batchSize capacity : Option Toml) : Option Settings := do
  return ⟨← withDefault? Settings.standard.bulkDeleteBatchSize batchSize,
    ← withDefault? Settings.standard.writerChannelCapacity capacity⟩

/-- Settings from a table, or from an array that holds them in their order. -/
def settings? : Toml → Option Settings
  | .table _ entries =>
      if unknownExist ["bulk_delete_batch_size", "writer_channel_capacity"] entries then
        settingsOf? (entries.lookup "bulk_delete_batch_size")
          (entries.lookup "writer_channel_capacity")
      else none
  | .array items => settingsOf? items[0]? items[1]?
  | .dateTime => some .standard
  | _ => none

def keys : List String :=
  ["auth_url", "user", "key", "storage_url", "token", "user_agent", "request_timeout_secs",
    "settings"]

def ofTable? (table : Toml.Table) : Option Config := do
  if !unknownExist keys table.entries then none
  let string := fun key => optional? string? (table.lookup? key)
  return {
    authUrl := ← string "auth_url"
    user := ← string "user"
    key := ← string "key"
    storageUrl := ← string "storage_url"
    token := ← string "token"
    userAgent := ← string "user_agent"
    timeoutSeconds := ← optional? word? (table.lookup? "request_timeout_secs")
    settings := ← match table.lookup? "settings" with
      | none => some .standard
      | some value => settings? value }

def read? (text : String) : Option Config := (Toml.parse? text).bind ofTable?

end ObjectStorage.Config
