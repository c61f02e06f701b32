import Mathlib.Data.List.Basic
import Mathlib.Data.List.Induction
import ObjectStorage.Proofs.Address.Names
import ObjectStorage.Proofs.Text.FormReading
import ObjectStorage.Proofs.Url.LongLabel
import ObjectStorage.Proofs.Url.ReadBack
import ObjectStorage.Request

/-!
# Addresses below an endpoint

The URL of a request is that of the endpoint with the segments of the names at the end of its path
and the values in its query.  It is refused for the names alone, and no two names have one URL.
-/

namespace ObjectStorage

namespace Text

variable {drop : Char → Bool} {before text : List Char}

theorem trimEnd_append (h : trimEnd drop before = before) (text : List Char) :
    trimEnd drop (before ++ text) = before ++ trimEnd drop text := by
  unfold trimEnd at h ⊢
  rw [List.reverse_append, List.dropWhile_append]
  split
  · next hempty => simp_all
  · simp

theorem trimEnd_of_kept (hne : text ≠ []) (h : ∀ c ∈ text, drop c = false) :
    trimEnd drop (before ++ text) = before ++ text := by
  unfold trimEnd
  cases hreverse : text.reverse with
  | nil => simp_all
  | cons c rest =>
      have hc : c ∈ text := by
        rw [← List.mem_reverse, hreverse]
        simp
      rw [List.reverse_append, hreverse, List.cons_append, List.dropWhile_cons, h c hc]
      simp only [Bool.false_eq_true, if_false]
      rw [← List.cons_append, ← hreverse]
      simp

end Text

namespace Url

/-! ## The end of a path -/

/-- The segments without the empty ones at the end. -/
def bare (segments : List String) : List String :=
  (segments.reverse.dropWhile fun segment => segment = "").reverse

theorem mem_of_mem_bare {segments : List String} {s : String} (h : s ∈ bare segments) :
    s ∈ segments := by
  unfold bare at h
  rw [List.mem_reverse] at h
  simpa using (List.dropWhile_sublist _).subset h

theorem trimEnd_pathChars {segments : List String} (h : ∀ s ∈ segments, IsSegment s) :
    Text.trimEnd (· = '/') (pathChars segments) = pathChars (bare segments) := by
  induction segments using List.reverseRecOn with
  | nil => rfl
  | append_singleton front last ih =>
      have hfront := ih fun s hs => h s (List.mem_append_left _ hs)
      have single : pathChars [last] = '/' :: last.toList := by simp [pathChars]
      rw [pathChars_append, single]
      by_cases hlast : last = ""
      · have dropped : bare (front ++ [last]) = bare front := by simp [bare, hlast]
        rw [dropped, ← hfront, hlast]
        simp [Text.trimEnd]
      · have kept : bare (front ++ [last]) = front ++ [last] := by simp [bare, hlast]
        have noSlash := (h last (by simp)).noSlash
        rw [kept, pathChars_append, single]
        have : pathChars front ++ '/' :: last.toList =
            (pathChars front ++ ['/']) ++ last.toList := by simp
        rw [this]
        refine Text.trimEnd_of_kept (by simpa using hlast) fun c hc => ?_
        simp only [decide_eq_false_iff_not]
        rintro rfl
        exact noSlash hc

section

variable {url : Url} {host : String} {segments : List String}

private theorem IsWeb.trimEnd_text (web : IsWeb url host segments) (noQuery : url.query = none)
    (noFragment : url.fragment = none) :
    Text.trimEnd (· = '/') url.text.toList =
      url.scheme.toList ++ ':' :: '/' :: '/' ::
        (url.authorityChars host ++ pathChars (bare segments)) := by
  have shape : url.text.toList =
      ((url.scheme.toList ++ [':', '/', '/']) ++ url.authorityChars host) ++
        pathChars segments := by
    simp [web.toList_text, noQuery, noFragment, tailChars]
  have authority : Text.trimEnd (· = '/')
      ((url.scheme.toList ++ [':', '/', '/']) ++ url.authorityChars host) =
        (url.scheme.toList ++ [':', '/', '/']) ++ url.authorityChars host := by
    refine Text.trimEnd_of_kept web.authorityChars_ne_nil fun c hc => ?_
    simp only [decide_eq_false_iff_not]
    rintro rfl
    exact absurd (web.mem_authorityChars hc) (by decide)
  rw [shape, Text.trimEnd_append authority, trimEnd_pathChars web.isSegment]
  simp

theorem IsWeb.base_append (web : IsWeb url host segments) (noQuery : url.query = none)
    (noFragment : url.fragment = none) {below : List String} (h : ∀ s ∈ below, IsSegment s)
    {path : String} (hpath : path.toList = pathChars below) :
    Request.base url ++ path = { url with path := .segments (bare segments ++ below) }.text := by
  have written : ∀ s ∈ bare segments ++ below, IsSegment s := by
    intro s hs
    rcases List.mem_append.mp hs with hs | hs
    · exact web.isSegment s (mem_of_mem_bare hs)
    · exact h s hs
  have whole := web.withPath written
  rw [← String.toList_inj, whole.toList_text, String.toList_append, Request.base,
    String.toList_ofList, web.trimEnd_text noQuery noFragment, hpath, pathChars_append]
  simp [noQuery, noFragment, tailChars, authorityChars, userinfoText, portText]

end

end Url

/-! ## Requests -/

namespace Address

/-- The names that a request is refused for. -/
def IsRefused (container object : Option String) : Prop :=
  (container = none ∧ object ≠ none) ∨
    (∃ name, container = some name ∧ IsRefusedContainer name) ∨
    ∃ name, object = some name ∧ IsRefusedObject name

theorem not_isRefused_container {name : String} (h : ¬IsRefusedContainer name) :
    ¬IsRefused (some name) none := by
  rintro (⟨alone, -⟩ | ⟨_, ⟨⟩, refused⟩ | ⟨_, object, -⟩)
  · exact nomatch alone
  · exact h refused
  · exact nomatch object

/-- The segments of the names, if there are any. -/
def below (container object : Option String) : List String :=
  match container with
  | none => []
  | some name => (pieces name object).map segment

theorem isSegment_of_mem_below {container object : Option String}
    (h : ¬IsRefused container object) {s : String} (hs : s ∈ below container object) :
    Url.IsSegment s := by
  cases container with
  | none => exact nomatch hs
  | some name =>
      refine isSegment_of_mem (fun hname => h (.inr (.inl ⟨name, rfl, hname⟩))) ?_ hs
      intro other hother hrefused
      exact h (.inr (.inr ⟨other, hother, hrefused⟩))

end Address

namespace Address

private theorem isRefused_of_object_alone {object : Option String} (h : ¬IsRefused none object) :
    object = none := by
  by_contra hobject
  exact h (.inl ⟨rfl, hobject⟩)

private theorem ne_empty_of_not_isRefused {container : String} {object : Option String}
    (h : ¬IsRefused (some container) object) : container ≠ "" := fun hempty =>
  h (.inr (.inl ⟨container, rfl, .inl hempty⟩))

theorem rooted_below (front : List String) (container : String) (object : Option String) :
    Url.rooted (front ++ below (some container) object) =
      front ++ below (some container) object :=
  if_neg (by simp [below, pieces])

private theorem rooted_ne_below {front : List String} {container : String} {object : Option String}
    (h : ¬IsRefused (some container) object) :
    Url.rooted front ≠ front ++ below (some container) object := by
  intro heq
  unfold Url.rooted at heq
  split at heq
  · next hfront =>
    rw [hfront, List.nil_append] at heq
    have first : "" = segment container := (List.cons.inj heq).1
    have decoded := congrArg Percent.decode? first
    rw [decode?_segment] at decoded
    have empty : Percent.decode? "" = some "" := by decide
    rw [empty, Option.some.injEq] at decoded
    exact ne_empty_of_not_isRefused h decoded.symm
  · have := congrArg List.length heq
    simp [below, pieces] at this

theorem below_injective {front : List String} {container other object otherObject : Option String}
    (h : ¬IsRefused container object) (hother : ¬IsRefused other otherObject)
    (same : Url.rooted (front ++ below container object) =
      Url.rooted (front ++ below other otherObject)) :
    container = other ∧ object = otherObject := by
  cases container with
  | none =>
      cases other with
      | none => exact ⟨rfl, (isRefused_of_object_alone h).trans
          (isRefused_of_object_alone hother).symm⟩
      | some name =>
          rw [rooted_below, below, List.append_nil] at same
          exact absurd same (rooted_ne_below hother)
  | some name =>
      cases other with
      | none =>
          rw [rooted_below, below, List.append_nil] at same
          exact absurd same.symm (rooted_ne_below h)
      | some otherName =>
          rw [rooted_below, rooted_below, List.append_cancel_left_eq] at same
          have injective : Function.Injective segment := fun _ _ => segment_injective
          have samePieces := List.map_injective_iff.mpr injective same
          obtain ⟨hname, hobject⟩ := pieces_injective samePieces
          exact ⟨congrArg some hname, hobject⟩

end Address

namespace Request

open Address

theorem path_cases (request : Request) :
    (∃ fault, request.path = .error fault) ∧ IsRefused request.container request.object ∨
      ¬IsRefused request.container request.object ∧ ∃ text, request.path = .ok text ∧
        text.toList = Url.pathChars (below request.container request.object) := by
  unfold Request.path
  cases request.container with
  | none =>
      cases request.object with
      | none =>
          refine .inr ⟨?_, "", rfl, rfl⟩
          rintro (⟨-, h⟩ | ⟨_, h, -⟩ | ⟨_, h, -⟩)
          · exact h rfl
          · exact nomatch h
          · exact nomatch h
      | some name => exact .inl ⟨⟨_, rfl⟩, .inl ⟨rfl, by simp⟩⟩
  | some container =>
      rcases check_cases container request.object with
        ⟨hcheck, plain, plainObject⟩ | ⟨⟨fault, hcheck⟩, refused⟩
      · refine .inr ⟨?_, Address.path container request.object, ?_, toList_path _ _⟩
        · rintro (⟨h, -⟩ | ⟨name, h, refused⟩ | ⟨name, h, refused⟩)
          · exact nomatch h
          · cases h
            exact plain refused
          · exact plainObject name h refused
        · simp only [hcheck]
          rfl
      · refine .inl ⟨⟨fault, ?_⟩, ?_⟩
        · simp only [hcheck]
          rfl
        · rcases refused with refused | refused
          · exact .inr (.inl ⟨container, rfl, refused⟩)
          · exact .inr (.inr refused)

/-- The query that the values give. -/
def query? (request : Request) : Option String :=
  if request.options.values.isEmpty then none
  else some (String.ofList (Form.encode request.options.values.toList))

/-- The address of what the request names below an endpoint. -/
def located (request : Request) (endpoint : Url) (segments : List String) : Url :=
  { endpoint with
    path := .segments
      (Url.rooted (Url.bare segments ++ below request.container request.object))
    query := request.query? }

section

variable {endpoint : Url} {host : String} {segments : List String}

theorem isSegment_of_mem_path (web : endpoint.IsWeb host segments) {container object : Option String}
    (plain : ¬IsRefused container object) {s : String}
    (hs : s ∈ Url.bare segments ++ below container object) : Url.IsSegment s := by
  rcases List.mem_append.mp hs with hs | hs
  · exact web.isSegment s (Url.mem_of_mem_bare hs)
  · exact isSegment_of_mem_below plain hs

theorem url_cases (web : endpoint.IsWeb host segments)
    (read : Url.Host.special host.toList = .ok host) (noQuery : endpoint.query = none)
    (noFragment : endpoint.fragment = none) (request : Request) :
    (∃ fault, request.url endpoint = .error (.invalidRequest fault)) ∧
        IsRefused request.container request.object ∨
      ¬IsRefused request.container request.object ∧
        request.url endpoint = .ok (request.located endpoint segments) := by
  unfold Request.url Request.address
  rcases request.path_cases with ⟨⟨fault, hpath⟩, refused⟩ | ⟨plain, text, hpath, htext⟩
  · rw [hpath]
    exact .inl ⟨⟨fault, rfl⟩, refused⟩
  · have written (s) := isSegment_of_mem_path web plain (s := s)
    have parsed := (web.withPath written).parse_text read
    have joined := web.base_append noQuery noFragment (fun s => isSegment_of_mem_below plain) htext
    refine .inr ⟨plain, ?_⟩
    rw [hpath]
    simp only [bind, Except.bind, joined, parsed]
    unfold located query?
    split
    · rw [noQuery]
      rfl
    · rw [Url.addPairs, noQuery]
      rfl

private theorem url_of_unread (web : endpoint.IsWeb host segments) {fault : Url.Fault}
    (unread : Url.Host.special host.toList = .error fault) (noQuery : endpoint.query = none)
    (noFragment : endpoint.fragment = none) (request : Request) :
    ∃ refusal, request.url endpoint = .error (.invalidRequest refusal) := by
  unfold Request.url Request.address
  rcases request.path_cases with ⟨⟨refusal, hpath⟩, -⟩ | ⟨plain, text, hpath, htext⟩
  · rw [hpath]
    exact ⟨refusal, rfl⟩
  · have written (s) := isSegment_of_mem_path web plain (s := s)
    have parsed := Url.parse_text (web.withPath written)
    rw [unread] at parsed
    have joined := web.base_append noQuery noFragment (fun s => isSegment_of_mem_below plain) htext
    rw [hpath]
    simp only [bind, Except.bind, joined, parsed]
    exact ⟨_, rfl⟩

private theorem kept_of_isEncodedChar {c : Char} (h : Form.isEncodedChar c = true) :
    Percent.isKept Url.escapedInSpecialQuery c = true := by
  simp only [Form.isEncodedChar, Bool.or_eq_true, decide_eq_true_eq] at h
  rcases h with (rfl | h) | h
  · decide
  · exact Percent.forall_kept
      (P := fun c => Percent.isKept Url.escapedInSpecialQuery c = true) (by decide +kernel) h
  · exact Url.isPartSet_specialQuery.stable c h

theorem kept_of_mem_encode {pairs : List (String × String)} {c : Char} (h : c ∈ Form.encode pairs) :
    Percent.isKept Url.escapedInSpecialQuery c = true := by
  rcases Form.mem_encode h with h | rfl | rfl
  · exact kept_of_isEncodedChar h
  · decide
  · decide

private theorem kept_of_query? {request : Request} {text : String}
    (h : request.query? = some text) :
    ∀ c ∈ text.toList, Percent.isKept Url.escapedInSpecialQuery c = true := by
  unfold query? at h
  split at h
  · exact nomatch h
  · cases h
    intro c hc
    rw [String.toList_ofList] at hc
    exact kept_of_mem_encode hc

theorem isWeb_located (web : endpoint.IsWeb host segments) {request : Request}
    (plain : ¬IsRefused request.container request.object) :
    (request.located endpoint segments).IsWeb host
      (Url.rooted (Url.bare segments ++ below request.container request.object)) := by
  have written : ∀ s ∈ Url.rooted (Url.bare segments ++ below request.container request.object),
      Url.IsSegment s := by
    intro s hs
    unfold Url.rooted at hs
    split at hs
    · rw [List.mem_singleton] at hs
      subst hs
      exact Url.isSegment_empty
    · exact isSegment_of_mem_path web plain hs
  exact (web.withPath written).withQuery fun text => kept_of_query?

end

/-! ## What the URL says -/

/-- The parts of the URL that a request has below an endpoint. -/
structure Addresses (endpoint : Url) (request : Request) (url : Url) : Prop where
  scheme : url.scheme = endpoint.scheme
  username : url.username = endpoint.username
  password : url.password = endpoint.password
  host : url.host = endpoint.host
  port : url.port = endpoint.port
  fragment : url.fragment = none
  path : ∀ container, request.container = some container →
    url.path.text =
      String.ofList (Text.trimEnd (· = '/') endpoint.path.text.toList) ++
        Address.path container request.object
  pieces : ∀ container, request.container = some container →
    (Text.splitString '/' (Address.path container request.object)).map Percent.decode? =
      some "" :: some container :: match request.object with
        | some object => (Text.splitString '/' object).map some
        | none => []
  query : if request.options.values.isEmpty then url.query = none
    else ∃ query, url.query = some query ∧
      Form.decode query.toList = request.options.values.toList

theorem addresses_located {endpoint : Url} {host : String} {segments : List String}
    (web : endpoint.IsWeb host segments) (noFragment : endpoint.fragment = none)
    (request : Request) : Addresses endpoint request (request.located endpoint segments) where
  scheme := rfl
  username := rfl
  password := rfl
  host := rfl
  port := rfl
  fragment := noFragment
  path container hcontainer := by
    have endpointPath : endpoint.path.text.toList = Url.pathChars segments := by
      rw [web.hasPath, Url.toList_pathText]
    have below : Address.below (some container) request.object =
        (Address.pieces container request.object).map segment := rfl
    rw [endpointPath, Url.trimEnd_pathChars web.isSegment, ← String.toList_inj,
      String.toList_append, String.toList_ofList, toList_path, ← Url.pathChars_append, ← below,
      ← rooted_below, ← hcontainer, ← Url.toList_pathText]
    rfl
  pieces container _ := by
    rw [split_path]
    unfold Address.pieces
    cases request.object <;> rfl
  query := by
    unfold located query?
    split
    · rfl
    · exact ⟨_, rfl, by rw [String.toList_ofList, Form.decode_encode]⟩

/--
Below an endpoint that is read as it is written, the names decide whether a request has a URL, the
URL says what the request says, and names that differ have URLs that differ.
-/
theorem addressing_exact {endpoint : Url}
    (web : endpoint.scheme = "http" ∨ endpoint.scheme = "https")
    (stable : Url.parse endpoint.text = .ok endpoint)
    (noQuery : endpoint.query = none) (noFragment : endpoint.fragment = none) :
    (∀ request : Request,
      ((∃ error, request.url endpoint = .error error) ↔
        IsRefused request.container request.object) ∧
      (∀ error, request.url endpoint = .error error → ∃ fault, error = .invalidRequest fault) ∧
      ∀ url, request.url endpoint = .ok url → Addresses endpoint request url) ∧
    ∀ (first second : Request) (firstUrl secondUrl : Url),
      first.url endpoint = .ok firstUrl → second.url endpoint = .ok secondUrl →
      firstUrl.text = secondUrl.text →
      first.container = second.container ∧ first.object = second.object := by
  obtain ⟨host, segments, -, parts⟩ := Url.isWeb_of_parse stable web
  have read := parts.special_of_stable stable
  constructor
  · intro request
    rcases url_cases parts read noQuery noFragment request with
      ⟨⟨fault, hurl⟩, refused⟩ | ⟨plain, hurl⟩
    · rw [hurl]
      refine ⟨⟨fun _ => refused, fun _ => ⟨_, rfl⟩⟩, ?_, ?_⟩
      · intro error h
        cases h
        exact ⟨fault, rfl⟩
      · intro url h
        exact nomatch h
    · rw [hurl]
      refine ⟨⟨?_, fun refused => absurd refused plain⟩, ?_, ?_⟩
      · rintro ⟨error, h⟩
        exact nomatch h
      · intro error h
        exact nomatch h
      · intro url h
        cases h
        exact addresses_located parts noFragment request
  · intro first second firstUrl secondUrl hfirst hsecond same
    rcases url_cases parts read noQuery noFragment first with ⟨⟨_, h⟩, -⟩ | ⟨firstPlain, h⟩
    · rw [h] at hfirst
      exact nomatch hfirst
    rw [h] at hfirst
    cases hfirst
    rcases url_cases parts read noQuery noFragment second with ⟨⟨_, h⟩, -⟩ | ⟨secondPlain, h⟩
    · rw [h] at hsecond
      exact nomatch hsecond
    rw [h] at hsecond
    cases hsecond
    have equal := (isWeb_located parts firstPlain).eq_of_text (isWeb_located parts secondPlain)
      read read (Url.rooted_ne_nil _) (Url.rooted_ne_nil _) same
    have samePath := congrArg Url.path equal
    simp only [located, Url.Path.segments.injEq] at samePath
    exact below_injective firstPlain secondPlain samePath

/-- An endpoint of the usual form. -/
def accountUrl : Url :=
  ⟨"http", "", "", some "swift.test", none, .segments ["v1", "AUTH_test"], none, none, false⟩

theorem addressing_exact_in_account :
    Url.parse accountUrl.text = .ok accountUrl ∧ ∀ request : Request,
      ((∃ error, request.url accountUrl = .error error) ↔
        IsRefused request.container request.object) ∧
      ∀ url, request.url accountUrl = .ok url → Addresses accountUrl request url := by
  have stable : Url.parse accountUrl.text = .ok accountUrl := by decide +kernel
  have exact := addressing_exact (.inl rfl) stable rfl rfl
  refine ⟨stable, fun request => ?_⟩
  have ⟨refused, _, addresses⟩ := exact.1 request
  exact ⟨refused, addresses⟩

/-- A container in an endpoint that was read from a long label, but is not read again. -/
theorem not_addressed_below_long_label :
    Url.parse Url.longGiven.text = .ok Url.longEndpoint ∧ Url.longEndpoint.scheme = "http" ∧
      Url.longEndpoint.query = none ∧ Url.longEndpoint.fragment = none ∧
      ∃ request : Request, request.container = some "c" ∧ request.object = none ∧
        ¬IsRefused request.container request.object ∧
        ∃ refusal, request.url Url.longEndpoint = .error (.invalidRequest refusal) := by
  have accepted : ¬IsRefused (some "c") none := by
    rintro (⟨h, -⟩ | ⟨name, h, refused⟩ | ⟨_, h, -⟩)
    · exact nomatch h
    · cases h
      revert refused
      unfold IsRefusedContainer
      decide
    · exact nomatch h
  have unread : Url.Host.special Url.longHost.toList = .error .invalidDomain := by
    rw [Url.longHost, String.toList_ofList]
    exact Url.special_longCode
  refine ⟨Url.parse_longGiven, rfl, rfl, rfl,
    { Request.plain .get Options.none [] with container := some "c" }, rfl, rfl, accepted, ?_⟩
  exact url_of_unread Url.isWeb_longEndpoint unread rfl rfl _

end Request

end ObjectStorage
