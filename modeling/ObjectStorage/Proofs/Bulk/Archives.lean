import ObjectStorage.Account
import ObjectStorage.Proofs.Address.Target
import ObjectStorage.Proofs.Bulk.Reported
import ObjectStorage.Proofs.Execution.Answers
import ObjectStorage.Proofs.Headers.Sending
import ObjectStorage.Proofs.Text.Trimmed

/-!
# Where archives go

The path of an archive is trimmed and cut once, into a container and the rest of it, which are
checked by rules of their own and then cut again when the address is made.  What comes out is the
trimmed path with each of its pieces encoded, and the path is refused for dots alone.
-/

namespace ObjectStorage

namespace Account

/-! ## Places -/

/-- The path without the slashes at both ends. -/
def uploadName (path : String) : String := Text.trimString (· = '/') path

def HasDots (path : String) : Prop :=
  ∃ piece ∈ Text.splitString '/' (uploadName path), piece = "." ∨ piece = ".."

/-- What stands after the path of the endpoint. -/
def uploadSuffix (path : String) : String :=
  if uploadName path = "" then ""
  else "/" ++ String.ofList
    (Text.join '/' ((Text.split '/' (uploadName path).toList).map Address.encodeSegment))

theorem uploadPlace_cases (path : String) :
    uploadName path = "" ∧ uploadPlace path = (none, none) ∨
      ∃ container object, uploadPlace path = (some container, object) ∧
        uploadName path = Address.joined container object ∧ container ≠ "" ∧
        '/' ∉ container.toList ∧ object ≠ some "" := by
  have trimmed := Text.isTrimmed_trim (· = '/') path.toList
  unfold uploadPlace uploadName Text.trimString
  generalize Text.trim (· = '/') path.toList = kept at trimmed ⊢
  cases kept with
  | nil => exact .inl ⟨rfl, rfl⟩
  | cons first rest =>
      have noSlash : first ≠ '/' := by simpa using trimmed.first first rfl
      refine .inr ?_
      by_cases slash : '/' ∈ first :: rest
      · obtain ⟨before, after, shape, whole⟩ := List.eq_append_cons_of_mem slash
        have beforeSome : before ≠ [] := by
          rintro rfl
          exact noSlash (List.cons.inj shape).1
        have afterSome : after ≠ [] := by
          rintro rfl
          have last := trimmed.last '/' (by rw [shape]; simp)
          exact absurd last (by decide)
        refine ⟨String.ofList before, some (String.ofList after), ?_, ?_, ?_, ?_, ?_⟩
        · simp [shape, Text.cut?_append whole]
        · rw [shape, Address.joined, ← String.toList_inj]
          simp
        · simpa using beforeSome
        · simpa using whole
        · simpa using afterSome
      · refine ⟨String.ofList (first :: rest), none, ?_, rfl, by simp, by simpa using slash, nofun⟩
        simp [Text.cut?_eq_none slash]

theorem splitString_joined {container : String} (noSlash : '/' ∉ container.toList)
    (object : Option String) :
    Text.splitString '/' (Address.joined container object) = Address.pieces container object := by
  unfold Text.splitString Address.joined Address.pieces
  cases object with
  | none => simp [Text.split_of_not_mem noSlash]
  | some object =>
      have whole : (container ++ "/" ++ object).toList =
          container.toList ++ '/' :: object.toList := by simp
      simp [whole, Text.split_append_separator noSlash, Text.splitString]

/-- Only dots are refused: neither part is empty, and the container has no slash. -/
theorem isRefused_uploadPlace_iff (path : String) :
    Address.IsRefused (uploadPlace path).1 (uploadPlace path).2 ↔ HasDots path := by
  rcases uploadPlace_cases path with ⟨nothing, place⟩ |
    ⟨container, object, place, name, notEmpty, noSlash, filled⟩
  · have pieces : Text.splitString '/' "" = [""] := by decide
    rw [place, HasDots, nothing, pieces]
    simp [Address.IsRefused]
  · rw [place, HasDots, name, splitString_joined noSlash]
    cases object with
    | none =>
        simp [Address.IsRefused, Address.IsRefusedContainer, Address.pieces, notEmpty, noSlash]
    | some object =>
        have notNone : object ≠ "" := fun h => filled (congrArg some h)
        simp [Address.IsRefused, Address.IsRefusedContainer, Address.IsRefusedObject,
          Address.pieces, notEmpty, noSlash, notNone]

theorem toList_uploadSuffix (path : String) :
    (uploadSuffix path).toList =
      Url.pathChars (Address.below (uploadPlace path).1 (uploadPlace path).2) := by
  unfold uploadSuffix
  rcases uploadPlace_cases path with ⟨nothing, place⟩ |
    ⟨container, object, place, name, notEmpty, noSlash, -⟩
  · rw [place, if_pos nothing]
    rfl
  · have named : uploadName path ≠ "" := by
      rw [name]
      unfold Address.joined
      cases object <;> simp [notEmpty]
    have encoded : (Address.pieces container object).map String.toList =
        Text.split '/' (uploadName path).toList := by
      rw [← splitString_joined noSlash, ← name, Address.map_splitString]
    have written : (Address.below (some container) object).map String.toList =
        (Text.split '/' (uploadName path).toList).map Address.encodeSegment := by
      rw [← encoded]
      simp [Address.below, Address.segment, Function.comp_def]
    obtain ⟨first, rest, shape⟩ : ∃ first rest,
        Address.below (some container) object = first :: rest := ⟨_, _, rfl⟩
    rw [place, if_neg named]
    dsimp only
    rw [shape] at written ⊢
    rw [Url.pathChars_cons, written]
    simp

/-! ## What is sent -/

/-- What is asked of the server, whatever the options of the caller say. -/
structure IsExtraction (endpoint : Url) (path : String) (format : ArchiveFormat) (archive : Body)
    (options : Options) (message : Http.Request) : Prop where
  method : message.method = .put
  path : message.uri.path =
    String.ofList (Text.trimEnd (· = '/') endpoint.path.text.toList) ++ uploadSuffix path
  parameters : message.parameters =
    (options.values.insert "extract-archive" format.name).toList
  format : ∀ value, ("extract-archive", value) ∈ message.parameters ↔ value = format.name
  body : message.body = archive

/-- The text of the address that an archive is sent to. -/
def uploadText (endpoint : Url) (path : String) (format : ArchiveFormat) (options : Options) :
    String :=
  Request.base endpoint ++ uploadSuffix path ++ "?" ++
    String.ofList (Form.encode (options.values.insert "extract-archive" format.name).toList)

section

variable {endpoint : Url} {host : String} {segments : List String} {path : String}
  {format : ArchiveFormat} {archive : Body} {options : Options} {message : Http.Request}

theorem query?_extractRequest (path : String) (format : ArchiveFormat) (archive : Body)
    (options : Options) :
    (extractRequest path format archive options).query? = some (String.ofList
      (Form.encode (options.values.insert "extract-archive" format.name).toList)) := by
  have given : (extractRequest path format archive options).options.values =
      options.values.insert "extract-archive" format.name := rfl
  rw [Request.query?, given, Dictionary.isEmpty_insert]
  rfl

section

variable (web : endpoint.IsWeb host segments) (noQuery : endpoint.query = none)
  (noFragment : endpoint.fragment = none) (named : Url.bare segments ≠ [])

include web noQuery noFragment named

theorem isExtraction_of_written
    (h : (extractRequest path format archive options).written endpoint = .ok message) :
    IsExtraction endpoint path format archive options message := by
  have parameters : message.parameters =
      (options.values.insert "extract-archive" format.name).toList := by
    obtain ⟨url, hurl, hmessage⟩ := ok_of_bind h
    obtain ⟨-, newHost, -, rfl⟩ := Request.located_of_url web noQuery noFragment hurl
    have query : message.uri.query = _ := Request.query_of_message hurl hmessage
    rw [Http.Request.parameters, query, Request.located]
    simp only [query?_extractRequest, Option.getD_some, String.toList_ofList, Form.decode_encode]
  refine ⟨Request.method_of_written h, ?_, parameters, fun value => ?_,
    Request.body_of_written h⟩
  · have endpointPath : endpoint.path.text.toList = Url.pathChars segments := by
      rw [web.hasPath, Url.toList_pathText]
    rw [Request.path_of_written web noQuery noFragment h, Url.rooted_of_ne_nil (by simp [named]),
      ← String.toList_inj, Url.toList_pathText, Url.pathChars_append, String.toList_append,
      String.toList_ofList, endpointPath, Url.trimEnd_pathChars web.isSegment,
      toList_uploadSuffix]
    rfl
  · rw [parameters, ← Dictionary.get?_eq_some_iff, Dictionary.get?_insert_self, Option.some.injEq]
    exact eq_comm

private theorem text_located (plain : ¬HasDots path) :
    ((extractRequest path format archive options).located endpoint segments).text =
      uploadText endpoint path format options := by
  have accepted := mt (isRefused_uploadPlace_iff path).mp plain
  have joined := web.base_append noQuery noFragment
    (fun s hs => Address.isSegment_of_mem_below accepted hs) (toList_uploadSuffix path)
  rw [uploadText, joined, Request.located, query?_extractRequest,
    Url.rooted_of_ne_nil (by simp [named])]
  simp [Url.text, Url.queryText, Url.fragmentText, Url.authorityText, Url.userinfoText,
    Url.portText, noQuery, noFragment, extractRequest, String.append_assoc]

omit noQuery noFragment named in
private theorem checkAuthority_of_target
    (reached : ∃ uri, Request.target { endpoint with path := .segments [""] } = .ok uri) :
    Http.Uri.checkAuthority (endpoint.authorityChars host) = .ok () := by
  obtain ⟨uri, target⟩ := reached
  have root := web.withPath (List.forall_mem_singleton.mpr Url.isSegment_empty)
  have same : Url.authorityChars { endpoint with path := .segments [""] } host =
      endpoint.authorityChars host := rfl
  unfold Request.target at target
  rw [Http.Uri.parse_of_web root (List.cons_ne_nil _ _), same] at target
  cases checked : Http.Uri.checkAuthority (endpoint.authorityChars host) with
  | ok _ => rfl
  | error fault =>
      rw [checked] at target
      split at target
      · next read =>
        split at read <;> exact nomatch read
      · exact nomatch target

variable (archive) in
theorem exists_written (stable : Url.parse endpoint.text = .ok endpoint)
    (reached : ∃ uri, Request.target { endpoint with path := .segments [""] } = .ok uri)
    (plain : ¬HasDots path)
    (sendable : ∃ fields, options.headers.toFields = .ok fields)
    (short : (Utf8.ofText (uploadText endpoint path format options)).length ≤
      Http.Uri.maxLength) :
    ∃ message, (extractRequest path format archive options).written endpoint = .ok message := by
  have accepted : ¬Address.IsRefused (extractRequest path format archive options).container
      (extractRequest path format archive options).object :=
    mt (isRefused_uploadPlace_iff path).mp plain
  have located := Request.isWeb_located web accepted
  have address : (extractRequest path format archive options).url endpoint =
      .ok ((extractRequest path format archive options).located endpoint segments) := by
    rcases Request.url_cases web (web.special_of_stable stable) noQuery noFragment
      (extractRequest path format archive options) with ⟨-, refused⟩ | ⟨-, found⟩
    · exact absurd refused accepted
    · exact found
  have target := Http.Uri.parse_of_web located (Url.rooted_ne_nil _)
  rw [text_located web noQuery noFragment named plain, if_neg (by omega)] at target
  have same : ((extractRequest path format archive options).located endpoint
      segments).authorityChars host = endpoint.authorityChars host := rfl
  rw [same, checkAuthority_of_target web reached,
    ← text_located web noQuery noFragment named plain] at target
  have accept : Headers.refusal? (Headers.canonicalName "Accept", "application/json") = none := by
    decide +kernel
  obtain ⟨fields, headers⟩ := Headers.exists_fields_set sendable accept
  exact ⟨_, Request.written_of_parts address target headers⟩

end

private theorem unwritten_of_dots (dots : HasDots path) (format : ArchiveFormat) (archive : Body)
    (options : Options) (endpoint : Url) :
    ∃ fault, (extractRequest path format archive options).written endpoint =
      .error (.invalidRequest fault) := by
  rcases (extractRequest path format archive options).path_cases with ⟨⟨fault, refused⟩, -⟩ |
    ⟨accepted, -⟩
  · refine ⟨fault, ?_⟩
    unfold Request.written Request.url Request.address
    rw [refused]
    rfl
  · exact absurd ((isRefused_uploadPlace_iff path).mpr dots) accepted

end

theorem bulkUpload_sends_once (transport : Transport σ) (account : Account) (path : String)
    (format : ArchiveFormat) (archive : Body) (options : Options) (events : List Observation)
    (state : σ) :
    ∃ result new last,
      (bulkUpload transport.observed account path format archive options).attempt
          (events, state) = (result, (events ++ new, last)) ∧
      ((∃ error, (extractRequest path format archive options).written account.site.endpoint =
          .error error ∧ result = .error error ∧ Observation.sends new = []) ∨
        ∃ message exchange, (extractRequest path format archive options).written
          account.site.endpoint = .ok message ∧ Observation.sends new = [(message, exchange)]) := by
  obtain ⟨answer, new, last, run, executed⟩ := Request.execute_executed transport
    (extractRequest path format archive options) account.site.endpoint events state
  rw [attempt_bulkUpload, run]
  generalize hsends : Observation.sends new = sends at executed
  cases executed with
  | unwritten unwritten => exact ⟨_, new, last, rfl, .inl ⟨_, unwritten, rfl, hsends⟩⟩
  | unanswered written | refused written | accepted written =>
      exact ⟨_, new, last, rfl, .inr ⟨_, _, written, hsends⟩⟩

end Account

namespace Site

/-- A site as it is made from an address on the web without a query and a fragment. -/
structure IsUsual (site : Site) : Prop where
  parsed : ∃ given, Url.parse given = .ok site.endpoint
  scheme : site.endpoint.scheme = "http" ∨ site.endpoint.scheme = "https"
  noQuery : site.endpoint.query = none
  noFragment : site.endpoint.fragment = none
  named : accountName? site.endpoint = some site.account

/-- The text of the endpoint is read as the endpoint, and its server can be the target of requests. -/
structure IsReachable (site : Site) : Prop where
  stable : Url.parse site.endpoint.text = .ok site.endpoint
  target : ∃ uri, Request.target { site.endpoint with path := .segments [""] } = .ok uri

private theorem bare_ne_nil_of_named {endpoint : Url} {segments : List String} {account : String}
    (path : endpoint.path = .segments segments) (h : accountName? endpoint = some account) :
    Url.bare segments ≠ [] := by
  intro nothing
  have empty : ∀ s ∈ segments, s = "" := by
    intro s hs
    simpa using List.dropWhile_eq_nil_iff.mp (List.reverse_eq_nil_iff.mp nothing) s
      (List.mem_reverse.mpr hs)
  have nobody : accountName? endpoint = none := by
    unfold accountName? Url.pathSegments?
    rw [path]
    cases segments with
    | nil => rfl
    | cons first rest =>
        have none : (first :: rest).reverse.find? (fun segment => segment ≠ "") = .none := by
          rw [List.find?_eq_none]
          intro s hs
          simp [empty s (List.mem_reverse.mp hs)]
        simp only [Option.bind_eq_bind, Option.bind_some, none, Option.bind_none]
  exact nomatch nobody.symm.trans h

end Site

namespace Account

/--
A path with dots is refused.  Any other is put below the account with each piece encoded, the
empty ones too, and exactly one request goes out if the account can be reached, the headers can
be sent and the address is no longer than a target may be.
-/
theorem archive_placed (transport : Transport σ) (account : Account) (path : String)
    (format : ArchiveFormat) (archive : Body) (options : Options) (events : List Observation)
    (state : σ) :
    ∃ result new last,
      (bulkUpload transport.observed account path format archive options).attempt
          (events, state) = (result, (events ++ new, last)) ∧
      (HasDots path →
        (∃ fault, result = .error (.invalidRequest fault)) ∧ Observation.sends new = []) ∧
      (account.site.IsUsual → ¬HasDots path →
        ((∃ error, result = .error error) ∧ Observation.sends new = [] ∨
          ∃ message exchange, Observation.sends new = [(message, exchange)] ∧
            IsExtraction account.site.endpoint path format archive options message) ∧
        (account.site.IsReachable → (∃ fields, options.headers.toFields = .ok fields) →
          (Utf8.ofText (uploadText account.site.endpoint path format options)).length ≤
            Http.Uri.maxLength → Observation.sends new ≠ [])) := by
  obtain ⟨result, new, last, run, cases⟩ :=
    bulkUpload_sends_once transport account path format archive options events state
  refine ⟨result, new, last, run, fun dots => ?refused, fun site plain => ⟨?sent, ?exactly⟩⟩
  case refused =>
    obtain ⟨fault, unwritten⟩ := unwritten_of_dots dots format archive options account.site.endpoint
    rcases cases with ⟨error, failed, returned, nothing⟩ | ⟨message, exchange, written, -⟩
    · cases unwritten.symm.trans failed
      exact ⟨⟨fault, returned⟩, nothing⟩
    · exact nomatch unwritten.symm.trans written
  all_goals
    obtain ⟨given, parsed⟩ := site.parsed
    obtain ⟨host, segments, -, web⟩ := Url.isWeb_of_parse parsed site.scheme
    have named := Site.bare_ne_nil_of_named web.hasPath site.named
  case sent =>
    rcases cases with ⟨error, -, returned, nothing⟩ | ⟨message, exchange, written, sent⟩
    · exact .inl ⟨⟨error, returned⟩, nothing⟩
    · exact .inr ⟨message, exchange, sent,
        isExtraction_of_written web site.noQuery site.noFragment named written⟩
  case exactly =>
    intro reachable sendable short
    obtain ⟨message, written⟩ := exists_written archive web site.noQuery site.noFragment named
      reachable.stable reachable.target plain sendable short
    rcases cases with ⟨error, failed, -, -⟩ | ⟨_, _, -, sent⟩
    · exact nomatch written.symm.trans failed
    · rw [sent]
      exact List.cons_ne_nil _ _

theorem archive_placed_below_account :
    ∃ message exchange,
      Observation.sends ((bulkUpload deletingServer.observed smallAccount "/c//a b/" .tarGz
        (.bytes [7]) .none).attempt ([], ())).2.1 = [(message, exchange)] ∧
      message.uri.path = "/v1/AUTH_test/c//a%20b" ∧ message.body = .bytes [7] := by
  have site : smallAccount.site.IsUsual :=
    ⟨⟨"http://swift.test/v1/AUTH_test", by decide +kernel⟩, .inl rfl, rfl, rfl, by decide +kernel⟩
  have reachable : smallAccount.site.IsReachable :=
    ⟨by decide +kernel, ⟨some "http", "swift.test", "/", none⟩, by decide +kernel⟩
  have plain : ¬HasDots "/c//a b/" := by
    unfold HasDots
    decide +kernel
  obtain ⟨result, new, last, run, -, placed⟩ := archive_placed deletingServer smallAccount
    "/c//a b/" .tarGz (.bytes [7]) .none [] ()
  obtain ⟨sent, some⟩ := placed site plain
  rw [run]
  rcases sent with ⟨-, nothing⟩ | ⟨message, exchange, sent, extraction⟩
  · exact absurd nothing (some reachable ⟨_, rfl⟩ (by decide +kernel))
  · have path : String.ofList (Text.trimEnd (· = '/')
        smallAccount.site.endpoint.path.text.toList) ++ uploadSuffix "/c//a b/" =
          "/v1/AUTH_test/c//a%20b" := by
      decide +kernel
    exact ⟨message, exchange, sent, extraction.path.trans path, extraction.body⟩

/-- An endpoint that is accepted for an account, but below which nothing is sent. -/
structure IsMissed (given : String) (endpoint : Url) : Prop where
  parsed : Url.parse given = .ok endpoint
  noQuery : endpoint.query = none
  noFragment : endpoint.fragment = none
  made : Site.ofEndpoint endpoint .standard = .ok ⟨endpoint, "AUTH_test", .standard⟩
  sendable : ∃ fields, Options.none.headers.toFields = .ok fields
  plain : ¬HasDots "c"
  short : (Utf8.ofText (uploadText endpoint "c" .tar .none)).length ≤ Http.Uri.maxLength
  missed : Observation.sends ((bulkUpload deletingServer.observed
    (ofSite ⟨endpoint, "AUTH_test", .standard⟩) "c" .tar .empty .none).attempt ([], ())).2.1 = []

/-- A quotation mark may stand in a host, but not in that of a target. -/
def quotedEndpoint : Url :=
  ⟨"http", "", "", some "a\"b.test", none, .segments ["v1", "AUTH_test"], none, none, false⟩

/-- A file is at no host. -/
def fileEndpoint : Url :=
  ⟨"file", "", "", some "", none, .segments ["v1", "AUTH_test"], none, none, false⟩

theorem not_placed_at_odd_endpoints :
    IsMissed "http://a\"b.test/v1/AUTH_test" quotedEndpoint ∧
      IsMissed "file:///v1/AUTH_test" fileEndpoint := by
  have plain : ¬HasDots "c" := by
    unfold HasDots
    decide +kernel
  constructor
  · exact ⟨by decide +kernel, rfl, rfl, by decide +kernel, ⟨_, rfl⟩, plain, by decide +kernel,
      by decide +kernel⟩
  · exact ⟨by decide +kernel, rfl, rfl, by decide +kernel, ⟨_, rfl⟩, plain, by decide +kernel,
      by decide +kernel⟩

end Account

end ObjectStorage
