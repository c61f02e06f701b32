import ObjectStorage.Headers.Field

/-!
# The header fields of accounts, containers and objects
-/

namespace ObjectStorage

namespace AccountField

def bytesUsed : Field UInt64 := Field.count "X-Account-Bytes-Used"
def containerCount : Field UInt64 := Field.count "X-Account-Container-Count"
def objectCount : Field UInt64 := Field.count "X-Account-Object-Count"
def bytesUsedQuota : SettableField UInt64 := SettableField.count "X-Account-Meta-Quota-Bytes"
def tempUrlKey : SettableField String := SettableField.text "X-Account-Meta-Temp-Url-Key"
def secondTempUrlKey : SettableField String := SettableField.text "X-Account-Meta-Temp-Url-Key-2"
def createdAt : Field Timestamp := Field.fractionalTime "X-Timestamp"

end AccountField

namespace ContainerField

def bytesUsed : Field UInt64 := Field.count "X-Container-Bytes-Used"
def objectCount : Field UInt64 := Field.count "X-Container-Object-Count"
def bytesUsedQuota : SettableField UInt64 := SettableField.count "X-Container-Meta-Quota-Bytes"
def objectCountQuota : SettableField UInt64 := SettableField.count "X-Container-Meta-Quota-Count"
def readAcl : SettableField String := SettableField.text "X-Container-Read"
def writeAcl : SettableField String := SettableField.text "X-Container-Write"
def syncTo : SettableField String := SettableField.text "X-Container-Sync-To"
def syncKey : SettableField String := SettableField.text "X-Container-Sync-Key"
def tempUrlKey : SettableField String := SettableField.text "X-Container-Meta-Temp-Url-Key"
def secondTempUrlKey : SettableField String :=
  SettableField.text "X-Container-Meta-Temp-Url-Key-2"
def storagePolicy : SettableField String := SettableField.text "X-Storage-Policy"
def versionsLocation : SettableField String := SettableField.text "X-Versions-Location"
def historyLocation : SettableField String := SettableField.text "X-History-Location"
def createdAt : Field Timestamp := Field.fractionalTime "X-Timestamp"

end ContainerField

namespace ObjectField

def contentType : SettableField String := SettableField.text "Content-Type"
def contentDisposition : SettableField String := SettableField.text "Content-Disposition"
def contentEncoding : SettableField String := SettableField.text "Content-Encoding"
def etag : SettableField String := SettableField.text "Etag"
def sizeBytes : SettableField UInt64 := SettableField.count "Content-Length"
def expiresAt : SettableField Timestamp := SettableField.unixTime "X-Delete-At"
def updatedAt : Field Timestamp := Field.httpDate "Last-Modified"
def createdAt : Field Timestamp := Field.fractionalTime "X-Timestamp"

end ObjectField

/-! ## Kinds of header sets -/

inductive AnyField where
  | text (field : SettableField String)
  | count (field : Field UInt64)
  | settableCount (field : SettableField UInt64)
  | time (field : Field Timestamp)
  | settableTime (field : SettableField Timestamp)

def AnyField.validate (headers : Headers) : AnyField → Except Error Unit
  | .text field => field.validate headers
  | .count field => field.validate headers
  | .settableCount field => field.validate headers
  | .time field => field.validate headers
  | .settableTime field => field.validate headers

inductive Kind where
  | account
  | container
  | object
  deriving DecidableEq, Repr

namespace Kind

def metadataStart : Kind → String
  | .account => "X-Account-Meta-"
  | .container => "X-Container-Meta-"
  | .object => "X-Object-Meta-"

def fields : Kind → List (String × AnyField)
  | .account => [
      ("bytes_used", .count AccountField.bytesUsed),
      ("container_count", .count AccountField.containerCount),
      ("object_count", .count AccountField.objectCount),
      ("bytes_used_quota", .settableCount AccountField.bytesUsedQuota),
      ("temp_url_key", .text AccountField.tempUrlKey),
      ("temp_url_key2", .text AccountField.secondTempUrlKey),
      ("created_at", .time AccountField.createdAt)]
  | .container => [
      ("bytes_used", .count ContainerField.bytesUsed),
      ("object_count", .count ContainerField.objectCount),
      ("bytes_used_quota", .settableCount ContainerField.bytesUsedQuota),
      ("object_count_quota", .settableCount ContainerField.objectCountQuota),
      ("read_acl", .text ContainerField.readAcl),
      ("write_acl", .text ContainerField.writeAcl),
      ("sync_to", .text ContainerField.syncTo),
      ("sync_key", .text ContainerField.syncKey),
      ("temp_url_key", .text ContainerField.tempUrlKey),
      ("temp_url_key2", .text ContainerField.secondTempUrlKey),
      ("storage_policy", .text ContainerField.storagePolicy),
      ("versions_location", .text ContainerField.versionsLocation),
      ("history_location", .text ContainerField.historyLocation),
      ("created_at", .time ContainerField.createdAt)]
  | .object => [
      ("content_type", .text ObjectField.contentType),
      ("content_disposition", .text ObjectField.contentDisposition),
      ("content_encoding", .text ObjectField.contentEncoding),
      ("etag", .text ObjectField.etag),
      ("size_bytes", .settableCount ObjectField.sizeBytes),
      ("expires_at", .settableTime ObjectField.expiresAt),
      ("updated_at", .time ObjectField.updatedAt),
      ("created_at", .time ObjectField.createdAt)]

/-- The fields that validation checks, one by one; texts can be read whatever they are. -/
def checked : Kind → List AnyField
  | .account => [.count AccountField.bytesUsed, .count AccountField.containerCount,
      .count AccountField.objectCount, .settableCount AccountField.bytesUsedQuota,
      .time AccountField.createdAt]
  | .container => [.count ContainerField.bytesUsed, .count ContainerField.objectCount,
      .settableCount ContainerField.bytesUsedQuota, .settableCount ContainerField.objectCountQuota,
      .time ContainerField.createdAt]
  | .object => [.settableCount ObjectField.sizeBytes, .settableTime ObjectField.expiresAt,
      .time ObjectField.updatedAt, .time ObjectField.createdAt]

end Kind

namespace Headers

/-- Checks that the fields of the kind can be read; the first that cannot is the error. -/
def validate (kind : Kind) (headers : Headers) : Except Error Unit :=
  kind.checked.forM fun field => field.validate headers

end Headers

end ObjectStorage
