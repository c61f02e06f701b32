import ObjectStorage.Error.Basic
import ObjectStorage.Settings
import ObjectStorage.Url.Basic

/-!
# Sites

An account is found at an endpoint, whose path ends in the name of the account.  Other accounts and
the description of the cluster have addresses beside and above it.
-/

namespace ObjectStorage

structure Site where
  endpoint : Url
  account : String
  settings : Settings
  deriving DecidableEq

namespace Site

/-- The last segment of the path that is not empty, decoded if it decodes to text. -/
def accountName? (endpoint : Url) : Option String := do
  let segments ← endpoint.pathSegments?
  let segment ← segments.reverse.find? fun segment => segment ≠ ""
  return (Percent.decode? segment).getD segment

def ofEndpoint (endpoint : Url) (settings : Settings) : Except Error Site :=
  match accountName? endpoint with
  | some account => .ok ⟨endpoint, account, settings⟩
  | none => .error (.invalidRequest (.noAccountName endpoint.text))

/-- The endpoint of another account of the cluster. -/
def siblingEndpoint (endpoint : Url) (account : String) : Except RequestFault Url :=
  if account = "" ∨ '/' ∈ account.toList then .error (.accountNotAllowed account)
  else if endpoint.cannotBeBase then .error (.cannotBeBase endpoint.text)
  else .ok (endpoint.popEmptySegment.popSegment.pushSegment account)

/-- Two segments above the endpoint, without its query. -/
def clusterRoot (endpoint : Url) : Except RequestFault Url :=
  if endpoint.cannotBeBase then .error (.cannotBeBase endpoint.text)
  else .ok endpoint.popEmptySegment.popSegment.popSegment.withoutQuery

/-- Another account of the cluster, with the same settings. -/
def switch (site : Site) (account : String) : Except Error Site := do
  let endpoint ← (siblingEndpoint site.endpoint account).mapError .invalidRequest
  ofEndpoint endpoint site.settings

end Site

end ObjectStorage
