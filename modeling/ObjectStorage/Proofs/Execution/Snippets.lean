import ObjectStorage.Proofs.Execution.Answers
import ObjectStorage.Proofs.Text.Replaced
import ObjectStorage.Proofs.Text.Trimmed

/-!
# What is kept of an unexpected answer

The limit counts the bytes that are decoded, not those of the text that is kept.  So this can be
longer than the limit: up to three times where the body is no text, and by two bytes where the limit
falls into a character of a text, in whose place it then has a replacement character.
-/

namespace ObjectStorage

private theorem Text.IsTrimmed.length_encode_le {drop : Char → Bool} {text kept : List Char}
    (trimmed : IsTrimmed drop text kept) :
    (Utf8.encode kept).length ≤ (Utf8.encode text).length := by
  obtain ⟨before, after, rfl, -, -⟩ := trimmed.between
  simp only [Utf8.encode_append, List.length_append]
  omega

namespace Request

open Utf8 (IsCut remnant)

/-- What is kept of a text: the characters before the limit, and a remnant of the one that it falls
into. -/
structure KeepsText (text kept : String) (whole rest : List Char) : Prop where
  cut : IsCut snippetLength text.toList whole rest
  trimmed : Text.IsTrimmed Text.isBlank (whole ++ remnant snippetLength whole rest) kept.toList
  replaced : kept.toList.count '\uFFFD' =
    whole.count '\uFFFD' + (remnant snippetLength whole rest).length
  length : (Utf8.ofText kept).length ≤
    snippetLength + 2 * (remnant snippetLength whole rest).length

/-- What is kept of any bytes. -/
structure Keeps (content : Bytes) (kept : String) : Prop where
  trimmed : Text.IsTrimmed Text.isBlank
    (Utf8.decodeLossy (content.take snippetLength)).toList kept.toList
  length : (Utf8.ofText kept).length ≤
    snippetLength + 2 * Utf8.broken (content.take snippetLength)
  bounded : (Utf8.ofText kept).length ≤ 3 * snippetLength
  ofText : ∀ text, content = Utf8.ofText text → ∃ whole rest, KeepsText text kept whole rest

section

variable {content : Bytes} {text : String} {whole rest : List Char}

theorem isTrimmed_snippet (content : Bytes) :
    Text.IsTrimmed Text.isBlank (Utf8.decodeLossy (content.take snippetLength)).toList
      (snippet content).toList := by
  rw [snippet, Text.trimBlanks, Text.trimString, String.toList_ofList]
  apply Text.isTrimmed_trim

theorem length_snippet_le (content : Bytes) :
    (Utf8.ofText (snippet content)).length ≤
      (content.take snippetLength).length + 2 * Utf8.broken (content.take snippetLength) := by
  apply (isTrimmed_snippet content).length_encode_le.trans
  apply Utf8.length_decodeLossy_le

theorem keepsText_snippet (cut : IsCut snippetLength text.toList whole rest) :
    KeepsText text (snippet (Utf8.ofText text)) whole rest := by
  have trimmed : Text.IsTrimmed Text.isBlank (whole ++ remnant snippetLength whole rest)
      (snippet (Utf8.ofText text)).toList := by
    rw [← cut.decodeLossy_take]
    apply isTrimmed_snippet
  constructor
  · exact cut
  · exact trimmed
  · rw [trimmed.count_eq (by decide), List.count_append, Utf8.count_remnant]
  · rw [← cut.broken_take, ← Utf8.ofText]
    have length := length_snippet_le (Utf8.ofText text)
    have taken : ((Utf8.ofText text).take snippetLength).length ≤ snippetLength :=
      List.length_take_le _ _
    omega

theorem keeps_snippet (content : Bytes) : Keeps content (snippet content) := by
  have length := length_snippet_le content
  have broken := Utf8.broken_le (content.take snippetLength)
  have taken : (content.take snippetLength).length ≤ snippetLength := List.length_take_le _ _
  constructor
  · exact isTrimmed_snippet content
  · omega
  · omega
  · rintro text rfl
    obtain ⟨whole, rest, cut⟩ := Utf8.exists_isCut snippetLength text.toList
    exact ⟨whole, rest, keepsText_snippet cut⟩

end

variable {σ : Type} {request : Request} {transport : Transport σ} {endpoint : Url}
  {message : Http.Request} {response : Http.Response} {pulled : Nat} {state next : σ}

/--
Of an answer that is not taken the first bytes are kept, decoded and trimmed.  Of a text these are
its first characters and, if the limit falls into a character, a replacement character for that.
-/
theorem unexpected_answer_kept (written : request.written endpoint = .ok message)
    (answered : transport.send message state = (⟨.ok response, pulled⟩, next))
    (refused : ¬request.Takes response.status) :
    ∃ unexpected, (request.execute transport endpoint).attempt state =
        (.error (.unexpectedStatus unexpected), next) ∧
      (∀ content, response.body.read = .ok content → Keeps content unexpected.body) ∧
      ∀ error, response.body.read = .error error → unexpected.body = "" := by
  obtain ⟨url, -, run⟩ := exchange_of_written written answered
  refine ⟨⟨request.method, url.text, request.expected, response.status,
    snippetOf response.body⟩, ?_, ?_, ?_⟩
  · rw [attempt_execute, run]
    exact congrArg (·, next) (accept_of_refused refused url)
  · intro content read
    simp only [snippetOf, read]
    exact keeps_snippet content
  · intro error unread
    simp only [snippetOf, unread]

/-- A text with a character of two bytes, the first of which is the last before the limit. -/
def cutText : String := String.ofList (List.replicate (snippetLength - 1) 'x' ++ ['é'])

def missing (content : Bytes) : Http.Response := ⟨.notFound, .none, .bytes content⟩

def cutServer : Transport Unit where
  send _ := fun state => (⟨.ok (missing (Utf8.ofText cutText)), 0⟩, state)

theorem not_takes_missing (content : Bytes) : ¬leafDeletion.Takes (missing content).status := by
  simp [missing, Takes, leafDeletion, Request.plain, Http.Status.notFound, Http.Status.noContent]

theorem unexpected_answer_kept_cut : ∃ unexpected whole rest,
    (leafDeletion.execute cutServer accountUrl).attempt () =
      (.error (.unexpectedStatus unexpected), ()) ∧
    KeepsText cutText unexpected.body whole rest := by
  obtain ⟨message, written⟩ : ∃ message, leafDeletion.written accountUrl = .ok message :=
    ⟨⟨.delete, ⟨some "http", "swift.test", "/v1/AUTH_test/c/o", none⟩, .http11, .none, .empty⟩,
      by decide +kernel⟩
  have answered : cutServer.send message () = (⟨.ok (missing (Utf8.ofText cutText)), 0⟩, ()) := rfl
  obtain ⟨unexpected, run, keeps, -⟩ :=
    unexpected_answer_kept written answered (not_takes_missing _)
  obtain ⟨whole, rest, kept⟩ := (keeps _ rfl).ofText cutText rfl
  exact ⟨unexpected, whole, rest, run, kept⟩

/-! ## Where the limit is exceeded -/

private theorem isCut_cutText :
    IsCut snippetLength cutText.toList (List.replicate (snippetLength - 1) 'x') ['é'] ∧
      remnant snippetLength (List.replicate (snippetLength - 1) 'x') ['é'] = ['\uFFFD'] := by
  have length : (Utf8.encode (List.replicate (snippetLength - 1) 'x')).length =
      snippetLength - 1 := by
    rw [Utf8.length_encode_replicate]
    exact Nat.mul_one _
  have two : 'é'.utf8Size = 2 := by decide
  have positive : 0 < snippetLength := by decide
  refine ⟨⟨String.toList_ofList, ?_, ?_⟩, ?_⟩
  · omega
  · simp only [List.head?_cons, Option.mem_some_iff, forall_eq', length, two]
    omega
  · simp [remnant, length]
    omega

private theorem count_snippet_cutText :
    (snippet (Utf8.ofText cutText)).toList.count '\uFFFD' = 1 ∧
      cutText.toList.count '\uFFFD' = 0 := by
  obtain ⟨cut, inside⟩ := isCut_cutText
  have none : (List.replicate (snippetLength - 1) 'x').count '\uFFFD' = 0 := by
    apply List.count_eq_zero.mpr
    intro member
    exact absurd (List.eq_of_mem_replicate member) (by decide)
  constructor
  · rw [(keepsText_snippet cut).replaced, none, inside]
    rfl
  · rw [cut.parts, List.count_append, none]
    decide

private theorem pieces_replicate (count : Nat) :
    Utf8.pieces (List.replicate count 0xFF) = List.replicate count (.malformed 1) := by
  induction count with
  | zero => rfl
  | succ count ih =>
      rw [List.replicate_succ, List.replicate_succ, ← ih]
      cases count with
      | zero => decide
      | succ count =>
          rw [List.replicate_succ, Utf8.pieces.eq_def]
          rfl

private theorem length_snippet_replicate :
    3 * snippetLength ≤ (Utf8.ofText (snippet (List.replicate snippetLength 0xFF))).length := by
  have decoded :
      (Utf8.decodeLossy ((List.replicate snippetLength 0xFF).take snippetLength)).toList =
        List.replicate snippetLength '\uFFFD' := by
    rw [List.take_replicate, Nat.min_self, Utf8.decodeLossy, String.toList_ofList,
      pieces_replicate, List.map_replicate]
    rfl
  have trimmed := isTrimmed_snippet (List.replicate snippetLength 0xFF)
  have count := trimmed.count_eq (c := '\uFFFD') (by decide)
  have length := Utf8.count_mul_le_length_encode '\uFFFD'
    (snippet (List.replicate snippetLength 0xFF)).toList
  rw [count, decoded, List.count_replicate_self, Utf8.utf8Size_replacement] at length
  rw [Utf8.ofText]
  omega

/-- The text kept of an answer can be longer than the limit, and can end as the body does not. -/
theorem not_kept_within_limit :
    (¬∀ (request : Request) (url : Url) (response : Http.Response) (unexpected : UnexpectedStatus),
      request.accept url response = .error (.unexpectedStatus unexpected) →
        (Utf8.ofText unexpected.body).length ≤ snippetLength) ∧
    ¬∀ (request : Request) (url : Url) (response : Http.Response) (unexpected : UnexpectedStatus)
      (text : String), request.accept url response = .error (.unexpectedStatus unexpected) →
        response.body.read = .ok (Utf8.ofText text) →
          ∃ start, start <+: text.toList ∧
            Text.IsTrimmed Text.isBlank start unexpected.body.toList := by
  have refused (content : Bytes) := accept_of_refused (not_takes_missing content) accountUrl
  constructor
  · intro within
    have limit := within _ _ _ _ (refused (List.replicate snippetLength 0xFF))
    have length := length_snippet_replicate
    have positive : 0 < snippetLength := by decide
    change (Utf8.ofText (snippet (List.replicate snippetLength 0xFF))).length ≤ _ at limit
    omega
  · intro begins
    obtain ⟨start, beginning, trimmed⟩ :=
      begins _ _ _ _ cutText (refused (Utf8.ofText cutText)) rfl
    obtain ⟨replaced, none⟩ := count_snippet_cutText
    have kept := trimmed.count_eq (c := '\uFFFD') (by decide)
    change (snippet (Utf8.ofText cutText)).toList.count '\uFFFD' = _ at kept
    have few := beginning.sublist.count_le '\uFFFD'
    omega

end Request

end ObjectStorage
