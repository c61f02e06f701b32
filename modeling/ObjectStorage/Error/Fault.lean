import ObjectStorage.Http.Status
import ObjectStorage.Http.Uri
import ObjectStorage.Text.Quoted
import ObjectStorage.Time.Timestamp
import ObjectStorage.Url.Host

/-!
# What can be wrong with headers, requests, answers, credentials and configurations

Each kind of error has its causes here, with their messages.  A cause `stated` carries a message
that came from outside.  Where a reader of a larger format fails, the message holds a star in the
place of the words of that reader.
-/

namespace ObjectStorage

/-! ## Headers -/

inductive HeaderFault where
  | invalidName
  | invalidValue
  | notUnsigned (value : String) (fault : Integer.Fault)
  | notFractional (value : String) (fault : Timestamp.FractionalFault)
  | notHttpDate (value : String)
  | notUnixTime (value : String) (fault : Timestamp.UnixFault)
  | stated (message : String)
  deriving DecidableEq

def HeaderFault.message : HeaderFault → String
  | .invalidName => "invalid HTTP header name"
  | .invalidValue => "failed to parse header value"
  | .notUnsigned value fault =>
      "cannot parse " ++ Text.quote value ++ " as unsigned integer: " ++ fault.message
  | .notFractional value .malformed =>
      "cannot parse " ++ Text.quote value ++ " as fractional timestamp"
  | .notFractional value .outOfRange =>
      "cannot parse " ++ Text.quote value ++ " as fractional timestamp: *"
  | .notHttpDate value => "cannot parse " ++ Text.quote value ++ " as HTTP date: *"
  | .notUnixTime value (.number fault) =>
      "cannot parse " ++ Text.quote value ++ " as Unix timestamp: " ++ fault.message
  | .notUnixTime _ .outOfRange => "*"
  | .stated message => message

/-! ## Requests -/

inductive RequestFault where
  | emptyContainer
  | slashInContainer (name : String)
  | containerNotAllowed (name : String)
  | emptyObject
  | dotSegment (name : String)
  | objectWithoutContainer
  | notUrl (text : String) (fault : Url.Fault)
  | notUri (url : String) (fault : Http.Uri.Fault)
  | noAccountName (endpoint : String)
  | accountNotAllowed (name : String)
  | cannotBeBase (endpoint : String)
  | foreign (item account through : String)
  /-- A client holds nothing fitting under the name. -/
  | noHandle (name : String)
  | stated (message : String)
  deriving DecidableEq

def RequestFault.message : RequestFault → String
  | .emptyContainer => "container name must not be empty"
  | .slashInContainer name => "container name " ++ Text.quote name ++ " must not contain a slash"
  | .containerNotAllowed name => "container name " ++ Text.quote name ++ " is not allowed"
  | .emptyObject => "object name must not be empty"
  | .dotSegment name =>
      "object name " ++ Text.quote name ++ " must not contain a \".\" or \"..\" path segment"
  | .objectWithoutContainer => "object name given without container name"
  | .notUrl text fault => text ++ ": " ++ fault.message
  | .notUri url fault => url ++ ": " ++ fault.message
  | .noAccountName endpoint => "cannot determine account name from endpoint URL " ++ endpoint
  | .accountNotAllowed name => "invalid account name " ++ Text.quote name
  | .cannotBeBase endpoint => endpoint ++ " cannot be a base URL"
  | .foreign item account through =>
      "cannot bulk-delete " ++ item ++ " in account " ++ account ++ " through account " ++ through
  | .noHandle name => "no handle " ++ Text.quote name
  | .stated message => message

/-! ## Answers -/

inductive ResponseFault where
  | malformedListing
  | lastModified (value : String) (record : Nat)
  | malformedReport
  | reportStatus (line : String)
  | notText (fault : Utf8.Fault)
  | stated (message : String)
  deriving DecidableEq

def ResponseFault.message : ResponseFault → String
  | .malformedListing => "cannot parse listing: *"
  | .lastModified value record =>
      "bad last_modified " ++ Text.quote value ++ " in listing record " ++
        Integer.writeNat record ++ ": *"
  | .malformedReport => "cannot parse bulk report: *"
  | .reportStatus line => "cannot parse status " ++ Text.quote line ++ " in bulk report"
  | .notText fault => "object content is not valid UTF-8: " ++ fault.message
  | .stated message => message

/-! ## Credentials -/

inductive AuthFault where
  | unsendableToken
  | notRenewable
  | rejected (user : String) (status : Http.Status)
  | answered (authUrl : String) (status : Http.Status)
  | noToken
  | noStorageUrl
  | invalidStorageUrl (text : String) (fault : Url.Fault)
  | stated (message : String)
  deriving DecidableEq

def AuthFault.message : AuthFault → String
  | .unsendableToken =>
      "token is not a valid header value: " ++ HeaderFault.invalidValue.message
  | .notRenewable => "token was rejected and cannot be renewed"
  | .rejected user status =>
      "credentials for " ++ user ++ " were rejected (" ++ status.text ++ ")"
  | .answered authUrl status => "auth endpoint " ++ authUrl ++ " answered " ++ status.text
  | .noToken => "auth response carries no X-Auth-Token"
  | .noStorageUrl => "auth response carries no X-Storage-Url"
  | .invalidStorageUrl text fault =>
      "invalid storage URL " ++ Text.quote text ++ ": " ++ fault.message
  | .stated message => message

/-! ## Configurations -/

inductive ConfigFault where
  /-- The file at the path is not a configuration. -/
  | malformed (path : String)
  /-- There is no text for the configuration. -/
  | unwritten (message : String)
  | noDirectory
  | noCredentials
  | halfToken
  | halfUser
  | noBatchSize
  | noChannelCapacity
  | notUrl (text : String) (fault : Url.Fault)
  | notAuthUri (url : String) (fault : Http.Uri.Fault)
  | unsendableUser
  | unsendableKey
  | stated (message : String)
  deriving DecidableEq

def ConfigFault.message : ConfigFault → String
  | .malformed path => path ++ ": *"
  | .unwritten message => "cannot serialize config: " ++ message
  | .noDirectory => "cannot determine config directory"
  | .noCredentials =>
      "no credentials configured (need auth_url, user and key, or storage_url and token)"
  | .halfToken => "storage_url and token must be given together"
  | .halfUser => "auth_url, user and key must be given together"
  | .noBatchSize => "bulk_delete_batch_size must be positive"
  | .noChannelCapacity => "writer_channel_capacity must be positive"
  | .notUrl text fault => "invalid URL " ++ Text.quote text ++ ": " ++ fault.message
  | .notAuthUri url fault => "invalid auth URL " ++ url ++ ": " ++ fault.message
  | .unsendableUser => "user is not a valid header value"
  | .unsendableKey => "key is not a valid header value"
  | .stated message => message

/-! ## Transport and streams -/

inductive TransportFault where
  | uploadStopped
  | stated (message : String)
  deriving DecidableEq

def TransportFault.message : TransportFault → String
  | .uploadStopped => "upload stopped reading object content"
  | .stated message => message

inductive IoFault where
  /-- A file that should hold text does not. -/
  | notText
  | stated (message : String)
  deriving DecidableEq

def IoFault.message : IoFault → String
  | .notText => "stream did not contain valid UTF-8"
  | .stated message => message

end ObjectStorage
