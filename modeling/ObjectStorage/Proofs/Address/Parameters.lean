import ObjectStorage.Proofs.Text.FormReading
import ObjectStorage.Proofs.Url.QueryText
import ObjectStorage.Request

/-!
# Parameters of requests

The pairs in the query of a request on the wire are those of the address that was named and, after
them, the query values of the request.
-/

namespace ObjectStorage

def Url.parameters (url : Url) : List (String × String) := Form.decode (url.query.getD "").toList

/-- What a server reads from the target of a request. -/
def Http.Request.parameters (message : Http.Request) : List (String × String) :=
  Form.decode (message.uri.query.getD "").toList

theorem Url.parameters_addPairs (url : Url) (pairs : List (String × String)) :
    (url.addPairs pairs).parameters = url.parameters ++ pairs := by
  have nothing : Form.decode [] = [] := rfl
  unfold addPairs parameters
  dsimp only
  split
  · next h => simp [h, Form.decode_encode, nothing]
  · next h => simp [h, Form.decode_encode, nothing]
  · next query _ h =>
    simp [h, String.toList_append, Form.decode_append, Form.decode_encode]

namespace Request

variable {request : Request} {endpoint url : Url} {message : Http.Request}

/-- The request without what the caller adds to it. -/
def bare (request : Request) : Request := { request with options := .none }

theorem url_of_bare (h : request.url endpoint = .ok url) :
    ∃ located, request.bare.url endpoint = .ok located ∧
      (∃ text, Url.parse text = .ok located) ∧
      url = if request.options.values.isEmpty then located
        else located.addPairs request.options.values.toList := by
  have path : request.bare.path = request.path := rfl
  unfold Request.url address at h ⊢
  rw [path]
  cases hpath : request.path with
  | error fault =>
      rw [hpath] at h
      exact nomatch h
  | ok below =>
      rw [hpath] at h
      simp only [bind, Except.bind] at h ⊢
      cases hparse : Url.parse (base endpoint ++ below) with
      | error fault =>
          rw [hparse] at h
          exact nomatch h
      | ok located =>
          rw [hparse] at h
          refine ⟨located, rfl, ⟨_, hparse⟩, ?_⟩
          dsimp only at h
          split at h
          all_goals
            cases h
            simp [*]

private theorem isCut_addPairs (cut : url.IsCut) (pairs : List (String × String)) :
    (url.addPairs pairs).IsCut := by
  unfold Url.addPairs
  dsimp only
  split <;> exact { cut with }

private theorem not_mem_addPairs {pairs : List (String × String)}
    (h : ∀ query, url.query = some query → '#' ∉ query.toList) :
    ∀ query, (url.addPairs pairs).query = some query → '#' ∉ query.toList := by
  have added : '#' ∉ Form.encode pairs := by
    intro hc
    rcases Form.mem_encode hc with hc | hc | hc
    · exact absurd hc (by decide)
    · exact absurd hc (by decide)
    · exact absurd hc (by decide)
  intro query hquery
  unfold Url.addPairs at hquery
  dsimp only at hquery
  split at hquery
  · cases hquery
    simpa using added
  · cases hquery
    simpa using added
  · next held _ hheld =>
    cases hquery
    simp [String.toList_append, h held hheld, added]

theorem query_of_message (hurl : request.url endpoint = .ok url)
    (hmessage : request.message url = .ok message) : message.uri.query = url.query := by
  obtain ⟨located, -, ⟨text, hparse⟩, heq⟩ := url_of_bare hurl
  obtain ⟨cut, noHash⟩ := Url.isCut_of_parse hparse
  have cutUrl : url.IsCut := by
    rw [heq]
    split
    · exact cut
    · exact isCut_addPairs cut _
  have noHashUrl : ∀ query, url.query = some query → '#' ∉ query.toList := by
    rw [heq]
    split
    · exact noHash
    · exact not_mem_addPairs noHash
  obtain ⟨uri, huri, h⟩ := ok_of_bind hmessage
  obtain ⟨fields, -, h⟩ := ok_of_bind h
  cases h
  unfold target at huri
  split at huri
  · next hread =>
    cases huri
    rw [Http.Uri.query_of_parse hread, cutUrl.queryOf_text noHashUrl]
  · exact nomatch huri

theorem parameters_of_message (hurl : request.url endpoint = .ok url)
    (hmessage : request.message url = .ok message) :
    ∃ located, request.bare.url endpoint = .ok located ∧
      message.parameters = located.parameters ++ request.options.values.toList := by
  obtain ⟨located, hlocated, -, rfl⟩ := url_of_bare hurl
  refine ⟨located, hlocated, ?_⟩
  have : message.parameters = Url.parameters (if request.options.values.isEmpty then located
      else located.addPairs request.options.values.toList) := by
    rw [Http.Request.parameters, query_of_message hurl hmessage, Url.parameters]
  rw [this]
  split
  · next hempty => simp [Dictionary.toList, List.isEmpty_iff.mp hempty]
  · exact located.parameters_addPairs _

end Request

end ObjectStorage
