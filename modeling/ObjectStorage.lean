import ObjectStorage.Client.Call
import ObjectStorage.Config.File
import ObjectStorage.Connect
import ObjectStorage.Headers.Metadata
import ObjectStorage.Script
import ObjectStorage.Proofs.Text.Escaped
import ObjectStorage.Proofs.Text.FormReading
import ObjectStorage.Proofs.Url.HostText
import ObjectStorage.Proofs.Url.Parts
import ObjectStorage.Proofs.Url.ReadBack
import ObjectStorage.Proofs.Address.Names
import ObjectStorage.Proofs.Address.Endpoint
import ObjectStorage.Proofs.Text.Tables
import ObjectStorage.Proofs.Url.Ideographs
import ObjectStorage.Proofs.Url.LongLabel
import ObjectStorage.Proofs.Auth.Conversation
import ObjectStorage.Proofs.Auth.Protocol
import ObjectStorage.Proofs.Url.QueryText
import ObjectStorage.Proofs.Address.Parameters
import ObjectStorage.Proofs.Listing.Server
import ObjectStorage.Proofs.Listing.Pages
import ObjectStorage.Proofs.Listing.Runs
import ObjectStorage.Proofs.Listing.Complete
import ObjectStorage.Proofs.Cache.Handles
import ObjectStorage.Proofs.Cache.Calls
import ObjectStorage.Proofs.Cache.Invariant
import ObjectStorage.Proofs.Writer.Moves
import ObjectStorage.Proofs.Writer.Protocol
import ObjectStorage.Proofs.Cache.Applied
import ObjectStorage.Proofs.Bulk.Lines
import ObjectStorage.Proofs.Headers.Names
import ObjectStorage.Proofs.Bulk.Deletion
import ObjectStorage.Proofs.Bulk.Ownership
import ObjectStorage.Proofs.Headers.Sending
import ObjectStorage.Proofs.Text.Trimmed
import ObjectStorage.Proofs.Upload.Integrity
import ObjectStorage.Proofs.Copy.Destination
import ObjectStorage.Proofs.Address.Target
import ObjectStorage.Proofs.Copy.Storage
import ObjectStorage.Proofs.Copy.Moves
import ObjectStorage.Proofs.Connection.Through
import ObjectStorage.Proofs.Connection.Calls
import ObjectStorage.Proofs.Connection.Dispatches
import ObjectStorage.Proofs.Connection.Sessions
import ObjectStorage.Proofs.Connection.Protocol
import ObjectStorage.Proofs.Connection.Refinement
import ObjectStorage.Proofs.Runs
import ObjectStorage.Proofs.Auth.Renewals
import ObjectStorage.Proofs.Listing.Positions
import ObjectStorage.Proofs.Listing.Visits
import ObjectStorage.Proofs.Refusal.Operations
import ObjectStorage.Proofs.Refusal.Names
import ObjectStorage.Proofs.Refusal.Calls
import ObjectStorage.Proofs.Text.Numerals
import ObjectStorage.Proofs.Bulk.Judgement
import ObjectStorage.Proofs.Bulk.Reported
import ObjectStorage.Proofs.Distinct
import ObjectStorage.Proofs.Headers.Spelling
import ObjectStorage.Proofs.Headers.History
import ObjectStorage.Proofs.Headers.CaseInsensitive
import ObjectStorage.Proofs.Headers.RoundTrip
import ObjectStorage.Proofs.Headers.Recasing
import ObjectStorage.Proofs.Headers.OwnNames
import ObjectStorage.Proofs.Toml.Strings
import ObjectStorage.Proofs.Toml.Documents
import ObjectStorage.Proofs.Config.Saved
import ObjectStorage.Proofs.Address.Siblings
import ObjectStorage.Proofs.Address.Slashes
import ObjectStorage.Proofs.Address.Suffixes
import ObjectStorage.Proofs.Execution.Answers
import ObjectStorage.Proofs.Bulk.Attribution
import ObjectStorage.Proofs.Bulk.Archives
import ObjectStorage.Proofs.Listing.Loops
import ObjectStorage.Proofs.Time.Fractional
import ObjectStorage.Proofs.Headers.TypedFields
import ObjectStorage.Proofs.Headers.MetadataView
import ObjectStorage.Proofs.Text.Decoded
import ObjectStorage.Proofs.Execution.Bodies
import ObjectStorage.Proofs.Text.Replaced
import ObjectStorage.Proofs.Execution.Snippets
import ObjectStorage.Proofs.Bulk.Counting
