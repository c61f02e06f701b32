import ObjectStorage.Proofs.Address.Target
import ObjectStorage.Proofs.Text.Trimmed
import ObjectStorage.Site

/-!
# Endpoints with a query or a fragment

The names of a request are put after the text of the endpoint.  With a query or a fragment they
become a part of it, so that the path of the request is that of the endpoint itself.
-/

namespace ObjectStorage

open Percent

/-! ## Characters of names -/

/-- Whether the character stands for itself in a query and in a fragment. -/
def Url.IsSuffixChar (c : Char) : Prop :=
  isKept Url.escapedInSpecialQuery c = true ∧ isKept Url.escapedInFragment c = true

instance (c : Char) : Decidable (Url.IsSuffixChar c) := by
  unfold Url.IsSuffixChar
  infer_instance

namespace Address

open Url

private theorem isSuffixChar_of_mem_segment {piece : String} {c : Char}
    (h : c ∈ (segment piece).toList) : IsSuffixChar c :=
  forall_mem_segment (by decide +kernel) (Text.forall_of_all (by decide)) h

theorem isSuffixChar_path (container : String) (object : Option String) :
    ∀ c ∈ (path container object).toList, IsSuffixChar c := by
  intro c h
  rw [toList_path] at h
  obtain ⟨s, hs, hc⟩ := List.mem_flatMap.mp h
  rcases List.mem_cons.mp hc with rfl | hc
  · decide
  · obtain ⟨piece, -, rfl⟩ := List.mem_map.mp hs
    exact isSuffixChar_of_mem_segment hc

end Address

namespace Url

variable {url : Url} {host : String} {segments : List String}

/-! ## Suffixes -/

def trimSlashes (text : String) : String := String.ofList (Text.trimEnd (· = '/') text.toList)

private theorem mem_of_mem_trimSlashes {text : String} {c : Char}
    (h : c ∈ (trimSlashes text).toList) : c ∈ text.toList := by
  obtain ⟨after, shape, -⟩ := Text.exists_trimEnd (· = '/') text.toList
  rw [trimSlashes, String.toList_ofList] at h
  rw [shape]
  exact List.mem_append_left _ h

/-- The address with more text in the last part of it that there is after the path. -/
def withSuffix (url : Url) (text : String) : Url :=
  match url.fragment with
  | some fragment => { url with fragment := some (trimSlashes fragment ++ text) }
  | none => { url with query := url.query.map fun query => trimSlashes query ++ text }

private theorem withSuffix_path (url : Url) (text : String) :
    (url.withSuffix text).path = url.path := by
  unfold withSuffix
  split <;> rfl

theorem IsWeb.withSuffix (web : url.IsWeb host segments) {text : String}
    (h : ∀ c ∈ text.toList, IsSuffixChar c) : (url.withSuffix text).IsWeb host segments := by
  unfold Url.withSuffix
  split
  · next fragment hfragment =>
    refine { web with fragment := ?_ }
    rintro _ ⟨⟩ c hc
    rcases List.mem_append.mp (String.toList_append ▸ hc) with hc | hc
    · exact web.fragment fragment hfragment c (mem_of_mem_trimSlashes hc)
    · exact (h c hc).2
  · refine { web with query := ?_ }
    intro query hquery c hc
    obtain ⟨held, hheld, rfl⟩ := Option.map_eq_some_iff.mp hquery
    rcases List.mem_append.mp (String.toList_append ▸ hc) with hc | hc
    · exact web.query held hheld c (mem_of_mem_trimSlashes hc)
    · exact (h c hc).1

/-- Slashes are trimmed after the mark at which a suffix begins, but the mark stays. -/
private theorem toList_base_append {front part : List Char} {mark : Char} (noSlash : mark ≠ '/')
    (shape : url.text.toList = front ++ mark :: part) (text : String) :
    (Request.base url ++ text).toList =
      front ++ mark :: (Text.trimEnd (· = '/') part ++ text.toList) := by
  have kept : Text.trimEnd (· = '/') (front ++ [mark]) = front ++ [mark] := by
    refine Text.trimEnd_of_kept (by simp) fun c hc => ?_
    rw [List.mem_singleton.mp hc]
    simpa using noSlash
  have whole : front ++ mark :: part = (front ++ [mark]) ++ part := by simp
  rw [String.toList_append, Request.base, String.toList_ofList, shape, whole,
    Text.trimEnd_append kept]
  simp

def onHost (url : Url) (host : String) : Url := { url with host := some host }

private theorem onHost_path (url : Url) (host : String) : (url.onHost host).path = url.path := rfl

theorem IsWeb.onHost (web : url.IsWeb host segments) {other : String}
    (isHost : IsHost other.toList) :
    (url.onHost other).IsWeb other segments :=
  { web with hasHost := rfl, isHost := isHost }

theorem IsWeb.base_append_suffix (web : url.IsWeb host segments)
    (suffixed : url.query ≠ none ∨ url.fragment ≠ none) {text : String}
    (h : ∀ c ∈ text.toList, IsSuffixChar c) :
    Request.base url ++ text = (url.withSuffix text).text := by
  rw [← String.toList_inj, (web.withSuffix h).toList_text]
  unfold Url.withSuffix
  cases hfragment : url.fragment with
  | some fragment =>
      have shape : url.text.toList = (url.scheme.toList ++ ':' :: '/' :: '/' ::
          (url.authorityChars host ++ pathChars segments ++ tailChars '?' url.query)) ++
            '#' :: fragment.toList := by
        simp [web.toList_text, hfragment, tailChars]
      rw [toList_base_append (by decide) shape]
      simp [tailChars, trimSlashes, authorityChars, userinfoText, portText]
  | none =>
      cases hquery : url.query with
      | none => simp [hquery, hfragment] at suffixed
      | some query =>
          have shape : url.text.toList = (url.scheme.toList ++ ':' :: '/' :: '/' ::
              (url.authorityChars host ++ pathChars segments)) ++ '?' :: query.toList := by
            simp [web.toList_text, hquery, hfragment, tailChars]
          rw [toList_base_append (by decide) shape]
          simp [tailChars, trimSlashes, authorityChars, userinfoText, portText]

theorem IsWeb.addPairs (web : url.IsWeb host segments) (pairs : List (String × String)) :
    (url.addPairs pairs).IsWeb host segments := by
  have added (c) (hc : c ∈ (String.ofList (Form.encode pairs)).toList) :=
    Request.kept_of_mem_encode (String.toList_ofList ▸ hc)
  unfold Url.addPairs
  dsimp only
  split
  · refine { web with query := ?_ }
    rintro _ ⟨⟩
    exact added
  · refine { web with query := ?_ }
    rintro _ ⟨⟩
    exact added
  · next query _ hquery =>
    refine { web with query := ?_ }
    rintro _ ⟨⟩ c hc
    simp only [String.toList_append, List.mem_append] at hc
    rcases hc with (hc | hc) | hc
    · exact web.query query hquery c hc
    · have mark : isKept escapedInSpecialQuery '&' = true := by decide
      have hmark : c = '&' := by simpa using hc
      exact hmark ▸ mark
    · exact added c hc

end Url

namespace Request

open Address

variable {endpoint url : Url} {host container : String} {segments : List String}
  {request : Request}

/-! ## Requests -/

/-- The address with the query values of the request. -/
def withValues (request : Request) (url : Url) : Url :=
  if request.options.values.isEmpty then url else url.addPairs request.options.values.toList

private theorem withValues_path (request : Request) (url : Url) :
    (request.withValues url).path = url.path := by
  unfold withValues Url.addPairs
  split
  · rfl
  · dsimp only
    split <;> rfl

private theorem isWeb_withValues (web : url.IsWeb host segments) (request : Request) :
    (request.withValues url).IsWeb host segments := by
  unfold withValues
  split
  · exact web
  · exact web.addPairs _

section

variable (web : endpoint.IsWeb host segments) (rooted : segments ≠ [])
  (suffixed : endpoint.query ≠ none ∨ endpoint.fragment ≠ none)
  (named : request.container = some container)

include web rooted suffixed named

theorem url_of_suffix :
    (∃ fault, request.url endpoint = .error (.invalidRequest fault)) ∧
        IsRefused request.container request.object ∨
      ¬IsRefused request.container request.object ∧
        match Url.Host.special host.toList with
        | .error _ => ∃ fault, request.url endpoint = .error (.invalidRequest fault)
        | .ok newHost => request.url endpoint = .ok (request.withValues
            ((endpoint.withSuffix (Address.path container request.object)).onHost newHost)) := by
  unfold Request.url Request.address
  rcases request.path_cases with ⟨⟨fault, hpath⟩, refused⟩ | ⟨plain, text, hpath, htext⟩
  · rw [hpath]
    exact .inl ⟨⟨fault, rfl⟩, refused⟩
  · have names : text = Address.path container request.object := by
      rw [← String.toList_inj, htext, named, toList_path]
      rfl
    have whole := web.withSuffix (isSuffixChar_path container request.object)
    have joined := web.base_append_suffix suffixed (isSuffixChar_path container request.object)
    have parsed := Url.parse_text whole
    refine .inr ⟨plain, ?_⟩
    -- The joined text is that of an address, so reading it can only fail at the host.
    rw [hpath, names]
    simp only [bind, Except.bind, joined, parsed]
    cases Url.Host.special host.toList with
    | error fault => exact ⟨_, rfl⟩
    | ok newHost =>
        simp only [Except.map, Url.rooted_of_ne_nil rooted, ← whole.hasPath]
        unfold withValues
        split <;> rfl

theorem suffix_of_url (h : request.url endpoint = .ok url) :
    ∃ newHost, url.IsWeb newHost segments ∧ url = request.withValues
      ((endpoint.withSuffix (Address.path container request.object)).onHost newHost) := by
  rcases url_of_suffix web rooted suffixed named with ⟨⟨fault, failed⟩, -⟩ | ⟨-, read⟩
  · rw [failed] at h
    exact nomatch h
  · split at read
    · obtain ⟨fault, failed⟩ := read
      rw [failed] at h
      exact nomatch h
    · next newHost hread =>
      have located := Except.ok.inj (h.symm.trans read)
      have written := (web.withSuffix (isSuffixChar_path container request.object)).onHost
        (Url.isHost_of_special hread)
      exact ⟨newHost, located ▸ isWeb_withValues written request, located⟩

private theorem path_of_suffix {message : Http.Request}
    (h : request.written endpoint = .ok message) :
    message.uri.path = endpoint.path.text := by
  obtain ⟨url, hurl, hmessage⟩ := ok_of_bind h
  obtain ⟨newHost, located, shape⟩ := suffix_of_url web rooted suffixed named hurl
  have target := target_of_message hmessage
  unfold Request.target at target
  split at target
  · next uri hread =>
    cases target
    rw [Http.Uri.path_of_parse located rooted hread, located.hasPath, web.hasPath]
  · exact nomatch target

end

/--
Below an endpoint with a query or a fragment the names of a request become a part of that suffix:
its address has the path of the endpoint itself, and so has its target on the wire.  Where the
endpoint is read as it is written, the names decide whether there is an address.
-/
theorem names_in_suffix {given : String} (parsed : Url.parse given = .ok endpoint)
    (scheme : endpoint.scheme = "http" ∨ endpoint.scheme = "https")
    (suffixed : endpoint.query ≠ none ∨ endpoint.fragment ≠ none)
    (named : request.container = some container) :
    (∀ url, request.url endpoint = .ok url → url.path = endpoint.path ∧
      ∃ host, url = request.withValues
        ((endpoint.withSuffix (Address.path container request.object)).onHost host)) ∧
    (∀ message, request.written endpoint = .ok message →
      message.uri.path = endpoint.path.text) ∧
    (IsRefused request.container request.object →
      ∃ fault, request.url endpoint = .error (.invalidRequest fault)) ∧
    (Url.parse endpoint.text = .ok endpoint → ¬IsRefused request.container request.object →
      request.url endpoint = .ok (request.withValues
        (endpoint.withSuffix (Address.path container request.object)))) := by
  obtain ⟨host, segments, rooted, web⟩ := Url.isWeb_of_parse parsed scheme
  refine ⟨fun url h => ?path, fun message => path_of_suffix web rooted suffixed named, ?names⟩
  case path =>
    obtain ⟨newHost, -, rfl⟩ := suffix_of_url web rooted suffixed named h
    exact ⟨by rw [withValues_path, Url.onHost_path, Url.withSuffix_path], newHost, rfl⟩
  case names =>
    rcases url_of_suffix web rooted suffixed named with ⟨failed, refused⟩ | ⟨plain, read⟩
    · exact ⟨fun _ => failed, fun _ plain => absurd refused plain⟩
    · refine ⟨fun refused => absurd refused plain, fun stable _ => ?_⟩
      have hasHost := (web.withSuffix (isSuffixChar_path container request.object)).hasHost
      rw [web.special_of_stable stable] at read
      simp only [Url.onHost, ← hasHost] at read
      exact read

def queryEndpoint : Url := { accountUrl with query := some "x=1" }

def deletion : Request := { Request.plain .delete Options.none [] with container := some "c" }

theorem parse_queryEndpoint : Url.parse queryEndpoint.text = .ok queryEndpoint := by
  decide +kernel

theorem names_in_suffix_query :
    deletion.url queryEndpoint = .ok { queryEndpoint with query := some "x=1/c" } := by
  have suffixed := names_in_suffix parse_queryEndpoint (.inl rfl) (.inl (by decide))
    (rfl : deletion.container = some "c")
  have shape : deletion.withValues (queryEndpoint.withSuffix (Address.path "c" none)) =
      { queryEndpoint with query := some "x=1/c" } := by decide +kernel
  have accepted : ¬IsRefusedContainer "c" := by
    unfold IsRefusedContainer
    decide
  rw [← shape]
  exact suffixed.2.2.2 parse_queryEndpoint (not_isRefused_container accepted)

/-- What names a container goes to the account. -/
theorem not_below_query :
    ¬∀ (given container account : String) (endpoint url : Url) (request : Request),
      Url.parse given = .ok endpoint → endpoint.scheme = "http" →
      endpoint.query ≠ none ∨ endpoint.fragment ≠ none →
      Site.accountName? endpoint = some account → request.container = some container →
      request.url endpoint = .ok url →
      url.path.text =
        Url.trimSlashes endpoint.path.text ++ Address.path container request.object := by
  intro claimed
  have found : deletion.url queryEndpoint = .ok { queryEndpoint with query := some "x=1/c" } := by
    decide +kernel
  have named : Site.accountName? queryEndpoint = some "AUTH_test" := by decide +kernel
  have below := claimed queryEndpoint.text "c" "AUTH_test" queryEndpoint _ deletion
    parse_queryEndpoint rfl (.inl (by decide)) named rfl found
  exact absurd below (by decide +kernel)

end Request

end ObjectStorage
