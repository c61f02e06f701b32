import ObjectStorage.Listing.Loop
import ObjectStorage.Proofs.Address.Parameters
import ObjectStorage.Proofs.Execution

/-!
# Servers of listings

A server holds names and answers with those that follow a marker, begin with a prefix and fit on
the page.  What it is asked for it reads from the query of the request, and the query of a page
says what the listing meant.
-/

namespace ObjectStorage.Listing

variable {kind : Kind} {σ : Type}

/-! ## Names -/

/-- Names come in the order of their bytes. -/
def Precedes (first second : String) : Prop := Utf8.ofText first < Utf8.ofText second

instance (first second : String) : Decidable (Precedes first second) :=
  inferInstanceAs (Decidable (Utf8.ofText first < Utf8.ofText second))

structure IsCatalog (names : List String) : Prop where
  sorted : names.Pairwise Precedes
  nonempty : "" ∉ names
  oneLine : ∀ name ∈ names, '\n' ∉ name.toList

def begins (beginning name : String) : Bool :=
  (Utf8.ofText beginning).isPrefixOf (Utf8.ofText name)

def matching (names : List String) (beginning : String) : List String :=
  names.filter (begins beginning)

/-! ## Questions -/

structure Question where
  marker : String
  beginning : String
  limit : Option Nat
  detailed : Bool
  deriving DecidableEq

namespace Question

def ofParameters (parameters : List (String × String)) : Question where
  marker := (parameters.lookup "marker").getD ""
  beginning := (parameters.lookup "prefix").getD ""
  limit := (parameters.lookup "limit").bind fun text =>
    (Integer.readWord text).toOption.map UInt64.toNat
  detailed := parameters.lookup "format" == some "json"

def ofMessage (message : Http.Request) : Question := ofParameters message.parameters

def size (question : Question) (cap : Nat) : Nat :=
  match question.limit with
  | some limit => min limit cap
  | none => cap

def page (question : Question) (names : List String) (cap : Nat) : List String :=
  ((matching names question.beginning).filter fun name => Precedes question.marker name).take
    (question.size cap)

end Question

/-! ## Answers -/

def lines (page : List String) : List Char := page.flatMap fun name => name.toList ++ ['\n']

/-- Whether the answer holds the names, as lines or as records. -/
inductive IsAnswer (scope : Scope kind) : (detailed : Bool) → List String → Http.Response → Prop
  | none {detailed : Bool} {fields : Http.Fields} {body : Body} (drained : body.drain = .ok ()) :
      IsAnswer scope detailed [] ⟨.noContent, fields, body⟩
  | lines {page : List String} {fields : Http.Fields} {body : Body}
      (read : body.read = .ok (Utf8.encode (lines page))) :
      IsAnswer scope false page ⟨.ok, fields, body⟩
  | unended {page : List String} {fields : Http.Fields} {body : Body}
      (read : body.read = .ok (Utf8.encode (Text.join '\n' (page.map String.toList)))) :
      IsAnswer scope false page ⟨.ok, fields, body⟩
  | records {fields : Http.Fields} {body : Body} {content : Bytes} {json : Json}
      {records : List (Record kind)} {details : List (String × Details kind)}
      (read : body.read = .ok content) (parsed : Json.parse? content = some json)
      (listed : scope.records? json = some records)
      (readable : detailsFrom 0 records = .ok details) :
      IsAnswer scope true (records.map Record.name) ⟨.ok, fields, body⟩

/-! ## Requests of pages -/

/-- What is sent for a page of the listing, or why nothing is. -/
def pageMessage (listing : Listing kind) (marker : String) (limit : Option UInt64)
    (detailed : Bool) : Except Error Http.Request :=
  (listing.request marker limit detailed).written listing.site.endpoint

/-- Answers every request of a page of the listing, the page being as long as it likes. -/
def Serves (transport : Transport σ) (names : List String) (listing : Listing kind) : Prop :=
  ∀ marker limit detailed message state, listing.pageMessage marker limit detailed = .ok message →
    ∃ cap pulled response next, 1 ≤ cap ∧
      transport.send message state = (⟨.ok response, pulled⟩, next) ∧
      IsAnswer listing.scope (Question.ofMessage message).detailed
        ((Question.ofMessage message).page names cap) response

def pageKeys : List String := ["marker", "prefix", "limit", "format"]

/-- Neither the options of the caller nor the address of what is listed set a parameter. -/
structure SetsNoParameter (listing : Listing kind) : Prop where
  options : ∀ key ∈ pageKeys, listing.options.values.get? key = none
  address : ∀ url, (listing.request "" none false).bare.url listing.site.endpoint = .ok url →
    ∀ key ∈ pageKeys, url.parameters.lookup key = none

section

variable {options : Options} {key wanted value : String}

theorem get?_withText : (withText key value options).values.get? wanted =
    if wanted = key ∧ value ≠ "" then some value else options.values.get? wanted := by
  unfold withText
  split
  · next hempty => simp [hempty]
  · next hvalue => simp [hvalue, Options.withValue, Dictionary.get?_insert]

theorem get?_withLimit {limit : Option UInt64} : (withLimit limit options).values.get? wanted =
    match limit with
    | some limit =>
        if wanted = "limit" then some (Integer.writeNat limit.toNat)
        else options.values.get? wanted
    | none => options.values.get? wanted := by
  cases limit with
  | none => rfl
  | some limit => simp [withLimit, Options.withValue, Dictionary.get?_insert]

theorem get?_withDetails {detailed : Bool} : (withDetails detailed options).values.get? wanted =
    if wanted = "format" ∧ detailed = true then some "json" else options.values.get? wanted := by
  cases detailed with
  | false => simp [withDetails]
  | true => simp [withDetails, Options.withValue, Options.withHeader, Dictionary.get?_insert]

end

section

variable {listing : Listing kind} {marker : String} {limit : Option UInt64} {detailed : Bool}

private theorem get?_marker (free : SetsNoParameter listing) :
    ((listing.pageOptions marker limit detailed).values.get? "marker").getD "" = marker := by
  have unset := free.options "marker" (by decide)
  by_cases hmarker : marker = "" <;> cases limit <;>
    simp [pageOptions, get?_withDetails, get?_withLimit, get?_withText, unset, hmarker]

private theorem get?_prefix (free : SetsNoParameter listing) :
    ((listing.pageOptions marker limit detailed).values.get? "prefix").getD "" =
      listing.beginning := by
  have unset := free.options "prefix" (by decide)
  by_cases hbeginning : listing.beginning = "" <;> cases limit <;>
    simp [pageOptions, get?_withDetails, get?_withLimit, get?_withText, unset, hbeginning]

private theorem get?_limit (free : SetsNoParameter listing) :
    (listing.pageOptions marker limit detailed).values.get? "limit" =
      limit.map fun limit => Integer.writeNat limit.toNat := by
  have unset := free.options "limit" (by decide)
  cases limit <;> simp [pageOptions, get?_withDetails, get?_withLimit, get?_withText, unset]

private theorem get?_format (free : SetsNoParameter listing) :
    (listing.pageOptions marker limit detailed).values.get? "format" =
      if detailed then some "json" else none := by
  have unset := free.options "format" (by decide)
  cases limit <;> simp [pageOptions, get?_withDetails, get?_withLimit, get?_withText, unset]

theorem question_of_pageMessage (free : SetsNoParameter listing) {message : Http.Request}
    (asked : listing.pageMessage marker limit detailed = .ok message) :
    Question.ofMessage message =
      ⟨marker, listing.beginning, limit.map UInt64.toNat, detailed⟩ := by
  obtain ⟨url, hurl, hmessage⟩ := ok_of_bind asked
  obtain ⟨located, hlocated, parameters⟩ := Request.parameters_of_message hurl hmessage
  have read (key : String) (hkey : key ∈ pageKeys) :
      message.parameters.lookup key = (listing.pageOptions marker limit detailed).values.get? key := by
    rw [parameters, List.lookup_append, free.address located hlocated key hkey]
    rfl
  rw [Question.ofMessage, Question.ofParameters, read "marker" (by decide),
    read "prefix" (by decide), read "limit" (by decide), read "format" (by decide),
    get?_marker free, get?_prefix free, get?_limit free, get?_format free]
  cases limit <;> cases detailed <;> simp [Integer.readWord_writeNat, Except.toOption]

end

end ObjectStorage.Listing
