import ObjectStorage.Json.Value
import ObjectStorage.Settings

/-!
# Capabilities of a cluster

What a cluster reports about its limits, read from JSON.
-/

namespace ObjectStorage

structure SwiftLimits where
  version : Option String
  maxFileSize : Option UInt64
  maxObjectNameLength : Option UInt64
  containerListingLimit : Option UInt64
  accountListingLimit : Option UInt64
  deriving DecidableEq, Repr

structure BulkDeleteLimits where
  maxDeletesPerRequest : UInt64
  maxFailedDeletes : UInt64
  deriving DecidableEq, Repr

structure BulkUploadLimits where
  maxContainersPerExtraction : UInt64
  maxFailedExtractions : UInt64
  deriving DecidableEq, Repr

structure Capabilities where
  swift : SwiftLimits
  bulkDelete : Option BulkDeleteLimits
  bulkUpload : Option BulkUploadLimits
  deriving DecidableEq, Repr

def SwiftLimits.unknown : SwiftLimits := ⟨none, none, none, none, none⟩

open Json in
def SwiftLimits.ofJson? (json : Json) : Option SwiftLimits := do
  let limit := defaulted? none (nullable? word?)
  match ← fields? ["version", "max_file_size", "max_object_name_length",
      "container_listing_limit", "account_listing_limit"] json with
  | [version, fileSize, nameLength, containerListing, accountListing] =>
      return ⟨← defaulted? none (nullable? text?) version, ← limit fileSize, ← limit nameLength,
        ← limit containerListing, ← limit accountListing⟩
  | _ => none

open Json in
def BulkDeleteLimits.ofJson? (json : Json) : Option BulkDeleteLimits := do
  match ← fields? ["max_deletes_per_request", "max_failed_deletes"] json with
  | [deletes, failed] => return ⟨← required? word? deletes, ← required? word? failed⟩
  | _ => none

open Json in
def BulkUploadLimits.ofJson? (json : Json) : Option BulkUploadLimits := do
  match ← fields? ["max_containers_per_extraction", "max_failed_extractions"] json with
  | [containers, failed] => return ⟨← required? word? containers, ← required? word? failed⟩
  | _ => none

namespace Capabilities

open Json in
def ofJson? (json : Json) : Option Capabilities := do
  match ← fields? ["swift", "bulk_delete", "bulk_upload"] json with
  | [swift, bulkDelete, bulkUpload] =>
      return ⟨← defaulted? .unknown SwiftLimits.ofJson? swift,
        ← defaulted? none (nullable? BulkDeleteLimits.ofJson?) bulkDelete,
        ← defaulted? none (nullable? BulkUploadLimits.ofJson?) bulkUpload⟩
  | _ => none

def parse? (content : Bytes) : Option Capabilities := (Json.parse? content).bind ofJson?

/-- Lowers the batch size to what the cluster deletes in one request. -/
def applyTo (capabilities : Capabilities) (settings : Settings) : Settings :=
  match capabilities.bulkDelete with
  | some limits =>
      if 0 < limits.maxDeletesPerRequest then
        { settings with
          bulkDeleteBatchSize := min settings.bulkDeleteBatchSize limits.maxDeletesPerRequest }
      else settings
  | none => settings

end Capabilities

end ObjectStorage
