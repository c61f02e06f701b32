import ObjectStorage.Bulk.Report
import ObjectStorage.Handle

/-!
# Upload of archives

The server unpacks an archive into the account, or below a path in it.
-/

namespace ObjectStorage

inductive ArchiveFormat where
  | tar
  | tarGz
  | tarBz2
  deriving DecidableEq, Repr

def ArchiveFormat.name : ArchiveFormat → String
  | .tar => "tar"
  | .tarGz => "tar.gz"
  | .tarBz2 => "tar.bz2"

def ArchiveFormat.ofName? (name : String) : Option ArchiveFormat :=
  [ArchiveFormat.tar, .tarGz, .tarBz2].find? fun format => format.name = name

namespace Account

variable {σ : Type}

/-- The container and the object that a path names; slashes at both ends do not count. -/
def uploadPlace (path : String) : Option String × Option String :=
  let path := Text.trim (· = '/') path.toList
  if path.isEmpty then (none, none)
  else match Text.cut? '/' path with
    | some (container, object) => (some (String.ofList container), some (String.ofList object))
    | none => (some (String.ofList path), none)

def extractOptions (format : ArchiveFormat) (options : Options) : Options :=
  (options.withValue "extract-archive" format.name).withHeader "Accept" "application/json"

def extractRequest (path : String) (format : ArchiveFormat) (archive : Body) (options : Options) :
    Request :=
  ⟨.put, (uploadPlace path).1, (uploadPlace path).2, extractOptions format options, archive,
    [.ok, .created], false⟩

def bulkUpload (transport : Transport σ) (account : Account) (path : String)
    (format : ArchiveFormat) (archive : Body) (options : Options) : Remote σ Bulk.Upload := do
  let response ←
    (extractRequest path format archive options).execute transport account.site.endpoint
  let content ← Remote.ofExcept response.body.read
  let report ← Remote.ofExcept (Bulk.Report.parse content)
  let failure ← Remote.ofExcept (report.failure?.mapError .badResponse)
  return ⟨report.created, failure⟩

end Account

end ObjectStorage
