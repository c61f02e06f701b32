import ObjectStorage.Proofs.Address.Endpoint
import ObjectStorage.Proofs.Execution
import ObjectStorage.Proofs.Url.QueryText

/-!
# Targets below an endpoint

The path on the wire is that of the endpoint with the segments of the names after it, whatever else
the request carries and however the host of the endpoint is read.
-/

namespace ObjectStorage

namespace Request

open Address

variable {endpoint url : Url} {host : String} {segments : List String} {request : Request}
  {message : Http.Request}

theorem located_of_url (web : endpoint.IsWeb host segments) (noQuery : endpoint.query = none)
    (noFragment : endpoint.fragment = none) (h : request.url endpoint = .ok url) :
    ¬IsRefused request.container request.object ∧
      ∃ newHost, Url.Host.special host.toList = .ok newHost ∧
        url = { request.located endpoint segments with host := some newHost } := by
  unfold Request.url Request.address at h
  rcases request.path_cases with ⟨⟨fault, hpath⟩, -⟩ | ⟨plain, text, hpath, htext⟩
  · rw [hpath] at h
    exact nomatch h
  have whole := web.withPath fun s => isSegment_of_mem_path web plain (s := s)
  have joined := web.base_append noQuery noFragment (fun s => isSegment_of_mem_below plain) htext
  have parsed := Url.parse_text whole
  rw [hpath] at h
  simp only [bind, Except.bind, joined, parsed] at h
  cases read : Url.Host.special host.toList with
  | error fault =>
      rw [read] at h
      exact nomatch h
  | ok newHost =>
      rw [read] at h
      refine ⟨plain, newHost, rfl, ?_⟩
      simp only [Except.map] at h
      unfold located query?
      split at h
      · next empty =>
        rw [if_pos empty, ← noQuery]
        exact (Except.ok.inj h).symm
      · next some =>
        rw [if_neg some]
        have added := (Except.ok.inj h).symm
        rwa [Url.addPairs, noQuery] at added

theorem isWeb_of_url (web : endpoint.IsWeb host segments) (noQuery : endpoint.query = none)
    (noFragment : endpoint.fragment = none) (h : request.url endpoint = .ok url) :
    ∃ host, url.IsWeb host
      (Url.rooted (Url.bare segments ++ below request.container request.object)) := by
  obtain ⟨plain, newHost, read, rfl⟩ := located_of_url web noQuery noFragment h
  exact ⟨newHost, { isWeb_located web plain with
    hasHost := rfl
    isHost := Url.isHost_of_special read }⟩

theorem path_of_written (web : endpoint.IsWeb host segments) (noQuery : endpoint.query = none)
    (noFragment : endpoint.fragment = none) (h : request.written endpoint = .ok message) :
    message.uri.path = (Url.Path.segments
      (Url.rooted (Url.bare segments ++ below request.container request.object))).text := by
  obtain ⟨url, hurl, hmessage⟩ := ok_of_bind h
  obtain ⟨newHost, located⟩ := isWeb_of_url web noQuery noFragment hurl
  have target := target_of_message hmessage
  unfold Request.target at target
  split at target
  · next uri hread =>
    cases target
    rw [Http.Uri.path_of_parse located (Url.rooted_ne_nil _) hread, located.hasPath]
  · exact nomatch target

theorem split_path_of_written (web : endpoint.IsWeb host segments) (noQuery : endpoint.query = none)
    (noFragment : endpoint.fragment = none) (h : request.written endpoint = .ok message) :
    Text.splitString '/' message.uri.path =
      "" :: Url.rooted (Url.bare segments ++ below request.container request.object) := by
  obtain ⟨url, hurl, -⟩ := ok_of_bind h
  obtain ⟨newHost, located⟩ := isWeb_of_url web noQuery noFragment hurl
  rw [path_of_written web noQuery noFragment h]
  exact Url.splitString_of_pathChars (Url.rooted_ne_nil _)
    (fun s hs => (located.isSegment s hs).noSlash) (Url.toList_pathText _)

end Request

end ObjectStorage
