import Mathlib.Data.List.Basic
import ObjectStorage.Config.File
import ObjectStorage.Proofs.Toml.Documents

/-!
# Saved configurations are read back

The text of a configuration is read as that configuration, whatever its strings hold and whichever
of its fields are set.  So a file holds what was saved in it, and a save that does not get as far
as writing leaves it as it was.
-/

namespace ObjectStorage

namespace Config

open Toml (Scalar held)

/-! ## Fields -/

/-- The fields that are left out where they are not set, in their order. -/
def optionalFields (config : Config) : List (String × Option Scalar) :=
  [("auth_url", config.authUrl.map .string), ("user", config.user.map .string),
    ("key", config.key.map .string), ("storage_url", config.storageUrl.map .string),
    ("token", config.token.map .string), ("user_agent", config.userAgent.map .string),
    ("request_timeout_secs", config.timeoutSeconds.map .integer)]

def given (fields : List (String × Option Scalar)) : List (String × Scalar) :=
  fields.filterMap fun field => field.2.map fun value => (field.1, value)

private theorem entries_eq (config : Config) : config.entries = given config.optionalFields := by
  simp [entries, given, optionalFields, stringEntry, integerEntry, List.filterMap_cons,
    Option.map_map, Function.comp_def]

theorem map_held (entries : List (String × Scalar)) :
    (entries.map held).map Prod.fst = entries.map Prod.fst := by
  simp [held, Function.comp_def]

theorem mem_of_mem_given {fields : List (String × Option Scalar)} {key : String}
    (h : key ∈ (given fields).map Prod.fst) : key ∈ fields.map Prod.fst := by
  obtain ⟨entry, hentry, rfl⟩ := List.mem_map.mp h
  obtain ⟨field, hfield, set⟩ := List.mem_filterMap.mp hentry
  obtain ⟨value, -, rfl⟩ := Option.map_eq_some_iff.mp set
  exact List.mem_map_of_mem hfield

private theorem nodup_given {fields : List (String × Option Scalar)}
    (distinct : (fields.map Prod.fst).Nodup) : ((given fields).map Prod.fst).Nodup := by
  induction fields with
  | nil => exact distinct
  | cons field fields ih =>
      obtain ⟨key, value⟩ := field
      rw [List.map_cons, List.nodup_cons] at distinct
      cases value with
      | none => exact ih distinct.2
      | some value =>
          refine List.nodup_cons.mpr ⟨fun h => ?_, ih distinct.2⟩
          exact distinct.1 (mem_of_mem_given h)

theorem lookup_given {fields : List (String × Option Scalar)}
    (distinct : (fields.map Prod.fst).Nodup) {key : String} {value : Option Scalar}
    (h : (key, value) ∈ fields) :
    ((given fields).map held).lookup key = value.map Scalar.value := by
  induction fields with
  | nil => exact nomatch h
  | cons field fields ih =>
      rw [List.map_cons, List.nodup_cons] at distinct
      rcases List.mem_cons.mp h with rfl | later
      · cases value with
        | none =>
            refine Dictionary.lookup_of_not_mem fun found => distinct.1 (mem_of_mem_given ?_)
            rw [map_held] at found
            exact found
        | some value => exact List.lookup_cons_self
      · have other : key ≠ field.1 := fun heq => distinct.1 (heq ▸ List.mem_map_of_mem later)
        obtain ⟨first, set⟩ := field
        cases set with
        | none => exact ih distinct.2 later
        | some set =>
            have skipped : (key == first) = false := by simpa using other
            rw [given, List.filterMap_cons]
            simp only [Option.map_some, List.map_cons, held, List.lookup_cons, skipped]
            exact ih distinct.2 later

/-! ## The table of a configuration -/

private theorem isBareKey_of_mem {key : String} (h : key ∈ keys) : Toml.IsBareKey key := by
  have bare : ∀ key ∈ keys, key.toList ≠ [] ∧ key.toList.all Toml.isBareKeyChar = true := by
    decide
  exact ⟨(bare key h).1, List.all_eq_true.mp (bare key h).2⟩

theorem keys_eq (config : Config) :
    config.optionalFields.map Prod.fst ++ ["settings"] = keys := rfl

private theorem settings_keys (settings : Settings) : (settingsEntries settings).map Prod.fst =
    ["bulk_delete_batch_size", "writer_channel_capacity"] := rfl

theorem distinct_keys (config : Config) :
    (config.optionalFields.map Prod.fst ++ ["settings"]).Nodup := by
  rw [keys_eq]
  decide

/-- The fields that are set, by key, as a document holds them. -/
def setFields (config : Config) : Toml.Entries := (given config.optionalFields).map held

def settingsTable (settings : Settings) : Toml :=
  .table .header ((settingsEntries settings).map held)

theorem not_mem_setFields (config : Config) : "settings" ∉ config.setFields.map Prod.fst := by
  intro h
  rw [setFields, map_held] at h
  exact (List.nodup_append.mp config.distinct_keys).2.2 _ (mem_of_mem_given h) _
    List.mem_cons_self rfl

def table (config : Config) : Toml.Table :=
  ⟨.header, config.setFields ++ [("settings", settingsTable config.settings)]⟩

theorem parse?_write (config : Config) : Toml.parse? config.write = some config.table := by
  have known {key : String} (h : key ∈ config.optionalFields.map Prod.fst ++ ["settings"]) :
      Toml.IsBareKey key := isBareKey_of_mem (config.keys_eq ▸ h)
  have inner : ((settingsEntries config.settings).map Prod.fst).Nodup := by
    rw [settings_keys]
    decide
  rw [write, entries_eq]
  refine Toml.parse?_written ?_ (known (by simp)) ?_ ?_ inner
  · intro entry h
    refine known (List.mem_append_left _ (mem_of_mem_given ?_))
    exact List.mem_map_of_mem h
  · intro entry h
    have names : ∀ key ∈ ["bulk_delete_batch_size", "writer_channel_capacity"],
        key.toList ≠ [] ∧ key.toList.all Toml.isBareKeyChar = true := by decide
    have bare := names entry.1 (settings_keys config.settings ▸ List.mem_map_of_mem h)
    exact ⟨bare.1, List.all_eq_true.mp bare.2⟩
  · have absent := config.not_mem_setFields
    rw [setFields, map_held] at absent
    have distinct := nodup_given (List.nodup_append.mp config.distinct_keys).1
    refine List.nodup_append.mpr ⟨distinct, by simp, fun key h last hlast heq => absent ?_⟩
    rwa [heq, List.mem_singleton.mp hlast] at h

theorem word?_value (n : UInt64) : word? (Scalar.integer n).value = some n := by
  have bound := n.toNat_lt
  have fits : (0 : Int) ≤ n.toNat ∧ (n.toNat : Int) ≤ Integer.maxWord := by
    simp only [Integer.maxWord]
    omega
  simp [word?, Scalar.value, fits]

private theorem settings?_table (settings : Settings) :
    settings? (settingsTable settings) = some settings := by
  have batchSize := word?_value settings.bulkDeleteBatchSize
  have capacity := word?_value settings.writerChannelCapacity
  have known : unknownExist ["bulk_delete_batch_size", "writer_channel_capacity"]
      ((settingsEntries settings).map held) = true := rfl
  have first : ((settingsEntries settings).map held).lookup "bulk_delete_batch_size" =
      some (Scalar.integer settings.bulkDeleteBatchSize).value := rfl
  have second : ((settingsEntries settings).map held).lookup "writer_channel_capacity" =
      some (Scalar.integer settings.writerChannelCapacity).value := rfl
  simp [settings?, settingsTable, known, first, second, settingsOf?, withDefault?, batchSize,
    capacity]

section

variable (config : Config)

private theorem unknownExist_table : unknownExist keys config.table.entries = true := by
  have nothing : config.table.entries.filter (fun entry => !keys.contains entry.1) = [] := by
    refine List.filter_eq_nil_iff.mpr fun entry h => ?_
    have among : entry.1 ∈ keys := by
      rw [← config.keys_eq]
      rcases List.mem_append.mp h with h | h
      · have := List.mem_map_of_mem (f := Prod.fst) h
        rw [setFields, map_held] at this
        exact List.mem_append_left _ (mem_of_mem_given this)
      · rw [List.mem_singleton.mp h]
        simp
    simpa using among
  rw [unknownExist, nothing]
  rfl

private theorem lookup?_field {key : String} {value : Option Scalar}
    (h : (key, value) ∈ config.optionalFields) :
    config.table.lookup? key = value.map Scalar.value := by
  have distinct := (List.nodup_append.mp config.distinct_keys).1
  have other : key ≠ "settings" := fun heq =>
    (List.nodup_append.mp config.distinct_keys).2.2 _ (List.mem_map_of_mem h) _
      List.mem_cons_self heq
  have found : config.setFields.lookup key = value.map Scalar.value := lookup_given distinct h
  have skipped : (key == "settings") = false := by simpa using other
  simp [Toml.Table.lookup?, table, List.lookup_append, found, List.lookup_cons, skipped]

private theorem lookup?_settings :
    config.table.lookup? "settings" = some (settingsTable config.settings) := by
  have absent := Dictionary.lookup_of_not_mem config.not_mem_setFields
  simp [Toml.Table.lookup?, table, List.lookup_append, absent]

private theorem optional?_string (value : Option String) :
    optional? string? ((value.map Scalar.string).map Scalar.value) = some value := by
  cases value <;> rfl

private theorem optional?_integer (value : Option UInt64) :
    optional? word? ((value.map Scalar.integer).map Scalar.value) = some value := by
  cases value with
  | none => rfl
  | some n => simp [optional?, word?_value]

private theorem ofTable?_table : ofTable? config.table = some config := by
  have string (key : String) (value : Option String)
      (h : (key, value.map Scalar.string) ∈ config.optionalFields) :
      optional? string? (config.table.lookup? key) = some value := by
    rw [config.lookup?_field h, optional?_string]
  have timeout : optional? word? (config.table.lookup? "request_timeout_secs") =
      some config.timeoutSeconds := by
    have held : ("request_timeout_secs", config.timeoutSeconds.map Scalar.integer) ∈
        config.optionalFields := by simp [optionalFields]
    rw [config.lookup?_field held, optional?_integer]
  have authUrl := string "auth_url" config.authUrl (by simp [optionalFields])
  have user := string "user" config.user (by simp [optionalFields])
  have key := string "key" config.key (by simp [optionalFields])
  have storageUrl := string "storage_url" config.storageUrl (by simp [optionalFields])
  have token := string "token" config.token (by simp [optionalFields])
  have userAgent := string "user_agent" config.userAgent (by simp [optionalFields])
  simp [ofTable?, config.unknownExist_table, authUrl, user, key, storageUrl, token, userAgent,
    timeout, config.lookup?_settings, settings?_table]

theorem read?_write : read? config.write = some config := by
  rw [read?, config.parse?_write]
  exact config.ofTable?_table

end

end Config

namespace ConfigFile

variable (file : ConfigFile) (disk : Disk) (config : Config)

/-! ## Files -/

/-- A configuration can always be written as text, so only the disk can refuse a save. -/
theorem saveTo_ok :
    (file.saveTo disk config).1 = .ok () ↔ disk.directory = .ok () ∧ disk.writing = .ok () := by
  obtain ⟨directory, writing⟩ := disk
  rw [saveTo, put]
  cases directory with
  | error fault => simp
  | ok =>
      cases writing with
      | error refusal => simp
      | ok => simp

theorem saveTo_of_ok (h : (file.saveTo disk config).1 = .ok ()) :
    (file.saveTo disk config).2 = { file with content := some (Utf8.ofText config.write) } := by
  obtain ⟨directory, writing⟩ := (file.saveTo_ok disk config).mp h
  simp [saveTo, put, directory, writing]

theorem load_written (path : String) :
    (ConfigFile.mk path (some (Utf8.ofText config.write))).load = .ok config := by
  simp [load, config.read?_write]

theorem put_error (message : String) :
    (∃ error, (file.put disk (.error message)).1 = .error error) ∧
      (file.put disk (.error message)).2 = file := by
  rw [put]
  cases disk.directory with
  | error fault => exact ⟨⟨_, rfl⟩, rfl⟩
  | ok => exact ⟨⟨_, rfl⟩, rfl⟩

/--
Whatever the file held before, after a save that succeeds the same file is read as the
configuration saved; only the disk can make a save fail; and where there is no text to write, the
file keeps its content.
-/
theorem saved_reads_back :
    ((file.saveTo disk config).1 = .ok () →
      (file.saveTo disk config).2.path = file.path ∧
        (file.saveTo disk config).2.load = .ok config) ∧
    ((file.saveTo disk config).1 = .ok () ↔ disk.directory = .ok () ∧ disk.writing = .ok ()) ∧
    ∀ message, (∃ error, (file.put disk (.error message)).1 = .error error) ∧
      (file.put disk (.error message)).2 = file := by
  refine ⟨fun h => ?_, file.saveTo_ok disk config, file.put_error disk⟩
  rw [file.saveTo_of_ok disk config h]
  exact ⟨rfl, load_written config file.path⟩

/-- Quotes, apostrophes, backslashes, line ends, other controls and the largest number. -/
def awkward : Config where
  authUrl := some "it's \"quoted\""
  user := some "\\\\server\\'''user\n"
  key := some "\n\r\t\x01\x7f\"\"\"'''"
  storageUrl := none
  token := some ""
  userAgent := some "'''\nzwölf"
  timeoutSeconds := some 18446744073709551615
  settings := ⟨0, 18446744073709551615⟩

theorem awkward_reads_back :
    ((ConfigFile.mk "config.toml" (some [255])).saveTo .willing awkward).1 = .ok () ∧
      ((ConfigFile.mk "config.toml" (some [255])).saveTo .willing awkward).2.load = .ok awkward :=
  ⟨rfl, ((saved_reads_back ⟨"config.toml", some [255]⟩ .willing awkward).1 rfl).2⟩

end ConfigFile

end ObjectStorage
