import ObjectStorage.Proofs.Cache.Handles
import ObjectStorage.Proofs.Headers.Sending
import ObjectStorage.Proofs.Text.Trimmed

/-!
# Uploads and their checksums

Content that is at hand goes with its length and checksum, and what is streamed is held against the
checksum that the server reports.  Both are the checksum of the content, however it was cut, and a
value that the caller gives takes the place of either.
-/

namespace ObjectStorage

/-! ## Headers that are added -/

namespace Headers

/-- The caller's value of a header if it is not empty, and else the one that is computed. -/
def chosen (headers : Headers) (name computed : String) : String :=
  match headers.text name with
  | .value given => given
  | _ => computed

/-- The headers with the computed value where the caller has none. -/
def filled (headers : Headers) (name computed : String) : Headers :=
  if (headers.text name).exists then headers else headers.set name computed

variable {headers : Headers} {name computed : String}

theorem text_cases (headers : Headers) (name : String) :
    (∃ given, headers.text name = .value given ∧ headers.get? name = some given) ∨
      (headers.text name).exists = false ∧
        ∀ held, headers.get? name = some held → held = "" := by
  unfold text
  cases hget : headers.get? name with
  | none => exact .inr ⟨rfl, nofun⟩
  | some value =>
      by_cases empty : value = ""
      · subst empty
        exact .inr ⟨rfl, fun held h => (Option.some.inj h).symm⟩
      · left
        refine ⟨value, ?_, rfl⟩
        split
        · next h => exact nomatch h
        · next h => exact absurd (Option.some.inj h) empty
        · next h => rw [Option.some.inj h]

theorem get?_filled (headers : Headers) (name computed wanted : String) :
    (headers.filled name computed).get? wanted =
      if canonicalName wanted = canonicalName name then some (headers.chosen name computed)
      else headers.get? wanted := by
  unfold filled chosen
  rcases headers.text_cases name with ⟨given, hgiven, hget⟩ | ⟨absent, -⟩
  · rw [hgiven]
    change headers.get? wanted = _
    by_cases same : canonicalName wanted = canonicalName name
    · rw [if_pos same, ← hget, get?, get?, same]
    · rw [if_neg same]
  · rw [absent, if_neg Bool.false_ne_true, get?_set]
    cases htext : headers.text name with
    | value given =>
        rw [htext] at absent
        exact nomatch absent
    | absent => rfl
    | empty => rfl

private theorem chosen_filled_of_ne {other : String} (h : canonicalName other ≠ canonicalName name)
    (value : String) :
    (headers.filled name computed).chosen other value = headers.chosen other value := by
  rw [chosen, text, get?_filled, if_neg h]
  rfl

theorem toFields_filled_error_iff {error : Error}
    (named : Http.fieldName? (canonicalName name) ≠ none)
    (sendable : Http.fieldValue? computed ≠ none) :
    (headers.filled name computed).toFields = .error error ↔ headers.toFields = .error error := by
  have kept : ∀ value, Http.fieldValue? value ≠ none →
      refusal? (canonicalName name, value) = none := by
    intro value hvalue
    unfold refusal?
    obtain ⟨wire, hwire⟩ := Option.ne_none_iff_exists'.mp named
    obtain ⟨bytes, hbytes⟩ := Option.ne_none_iff_exists'.mp hvalue
    rw [hwire, hbytes]
  unfold filled
  rcases headers.text_cases name with ⟨given, hgiven, -⟩ | ⟨absent, empty⟩
  · rw [hgiven]
    rfl
  · rw [absent, if_neg Bool.false_ne_true]
    refine toFields_set_error_iff (kept computed sendable) fun held hheld => ?_
    rw [empty held hheld]
    exact kept "" (by decide)

end Headers

/-! ## Values that are computed -/

private theorem Percent.lowerDigit_printed : ∀ n < 16,
    0x20 ≤ (lowerDigit n).toNat ∧ (lowerDigit n).toNat ≠ 0x7F := by
  decide

private theorem Percent.printed_of_mem_hexText {bytes : Bytes} {c : Char}
    (h : c ∈ (hexText bytes).toList) : 0x20 ≤ c.toNat ∧ c.toNat ≠ 0x7F := by
  rw [hexText, String.toList_ofList] at h
  obtain ⟨byte, -, hc⟩ := List.mem_flatMap.mp h
  have := byte.toNat_lt
  simp only [List.mem_cons, List.not_mem_nil, or_false] at hc
  rcases hc with rfl | rfl
  · exact lowerDigit_printed _ (by omega)
  · exact lowerDigit_printed _ (by omega)

theorem Md5.fieldValue?_hex (content : Bytes) : Http.fieldValue? (Md5.hex content) ≠ none := by
  unfold Md5.hex Md5.closeHex
  rw [Http.fieldValue?_of_printed fun c hc => .inr (Percent.printed_of_mem_hexText hc)]
  exact Option.some_ne_none _

theorem Integer.fieldValue?_writeNat (n : Nat) : Http.fieldValue? (Integer.writeNat n) ≠ none := by
  rw [Http.fieldValue?_of_printed fun c hc => ?_]
  · exact Option.some_ne_none _
  · rw [writeNat, String.toList_ofList] at hc
    have := isDigit_of_mem_toDigits hc
    omega

namespace Object

variable {σ : Type}

private theorem checksum_eq (chunks : List Bytes) : checksum chunks = Md5.hex chunks.flatten := by
  rw [checksum, Md5.hex, Md5.absorb_flatten]

theorem uploadHeaders_of_content {body : Body} {content : Bytes}
    (held : body.content? = some content) (headers : Headers) :
    uploadHeaders body headers =
      (headers.filled "Content-Length"
        (Integer.writeNat (UInt64.ofNat content.length).toNat)).filled "Etag"
          (Md5.hex content) := by
  rw [uploadHeaders, held]
  rfl

theorem uploadHeaders_error_iff (body : Body) (headers : Headers) (error : Error) :
    (uploadHeaders body headers).toFields = .error error ↔ headers.toFields = .error error := by
  cases held : body.content? with
  | none => rw [uploadHeaders, held]
  | some content =>
      rw [uploadHeaders_of_content held,
        Headers.toFields_filled_error_iff (by decide +kernel) (Md5.fieldValue?_hex content),
        Headers.toFields_filled_error_iff (by decide +kernel) (Integer.fieldValue?_writeNat _)]

/-! ## What is sent -/

/-- The request of an upload without its content and without the headers that go with it. -/
def bare (object : Object) (options : Options) : Request := object.request .put options [.created]

theorem put_error_iff (object : Object) (body : Body) (options : Options) (error : Error) :
    (object.put body options).written object.site.endpoint = .error error ↔
      (object.bare options).written object.site.endpoint = .error error := by
  apply Request.written_error_congr
  · rfl
  · rfl
  · rfl
  · exact uploadHeaders_error_iff body options.headers

/-- The message carries the content, and what the caller or else the content says of it. -/
structure Carries (object : Object) (body : Body) (options : Options) (message : Http.Request) :
    Prop where
  method : message.method = .put
  content : message.body = body
  streamed : ∀ source, body = .stream source →
    (object.bare options).written object.site.endpoint = .ok { message with body := .empty }
  length : ∀ content, body.content? = some content → content.length < UInt64.size →
    message.fields.get? "content-length" = some ⟨Utf8.ofText (options.headers.chosen
      "Content-Length" (Integer.writeNat content.length)), []⟩
  checksum : ∀ content, body.content? = some content →
    message.fields.get? "etag" = some ⟨Utf8.ofText (options.headers.chosen
      "Etag" (Md5.hex content)), []⟩

theorem carries_of_written {object : Object} {body : Body} {options : Options}
    {message : Http.Request}
    (written : (object.put body options).written object.site.endpoint = .ok message) :
    Carries object body options message where
  method := Request.method_of_written written
  content := Request.body_of_written written
  streamed := by
    rintro source rfl
    have whole := Request.written_withBody (object.bare options) (.stream source)
      object.site.endpoint
    change (object.put (.stream source) options).written _ = _ at whole
    rw [written] at whole
    cases bareMessage : (object.bare options).written object.site.endpoint with
    | error error =>
        rw [bareMessage] at whole
        exact nomatch whole
    | ok plain =>
        rw [bareMessage] at whole
        cases whole
        have body := Request.body_of_written bareMessage
        change plain.body = .empty at body
        rw [← body]
  length := by
    intro content held bound
    refine Headers.get?_toFields (by decide) (by decide +kernel) ?_
      (Request.fields_of_written written)
    change (uploadHeaders body options.headers).get? "content-length" = _
    rw [uploadHeaders_of_content held, Headers.get?_filled, if_neg (by decide +kernel),
      Headers.get?_filled, if_pos (by decide +kernel), UInt64.toNat_ofNat',
      Nat.mod_eq_of_lt bound]
  checksum := by
    intro content held
    refine Headers.get?_toFields (by decide) (by decide +kernel) ?_
      (Request.fields_of_written written)
    change (uploadHeaders body options.headers).get? "etag" = _
    rw [uploadHeaders_of_content held, Headers.get?_filled, if_pos (by decide +kernel),
      Headers.chosen_filled_of_ne (by decide +kernel)]

/-! ## What the answer is held against -/

/--
The text is the field's first value without the quotes around it, and none if it is unprintable.
-/
def IsReported (fields : Http.Fields) (text : String) : Prop :=
  Text.IsTrimmed (· = '"') (((fields.first? "etag").bind Http.visibleText?).getD "").toList
    text.toList

theorem isReported_iff {fields : Http.Fields} {text : String} :
    IsReported fields text ↔ reportedChecksum fields = text := by
  rw [IsReported, Text.isTrimmed_iff, reportedChecksum, Text.trimString, ← String.toList_inj,
    String.toList_ofList, eq_comm]

/-- Whether the checksum of the stream is compared: the caller gives none. -/
def Verifies (body : Body) (options : Options) (source : Stream) : Prop :=
  body = .stream source ∧ ∀ given, options.headers.text "Etag" ≠ .value given

private theorem hashedChunks?_cases (body : Body) (options : Options) :
    (∃ source, Verifies body options source ∧
      hashedChunks? body options.headers = some source.chunks) ∨
    (∀ source, ¬Verifies body options source) ∧ hashedChunks? body options.headers = none := by
  cases body with
  | empty => exact .inr ⟨fun source verifies => by simpa using verifies.1, rfl⟩
  | bytes content => exact .inr ⟨fun source verifies => by simpa using verifies.1, rfl⟩
  | stream source =>
      rcases options.headers.text_cases "Etag" with ⟨given, hgiven, -⟩ | ⟨absent, -⟩
      · refine .inr ⟨fun source verifies => verifies.2 given hgiven, ?_⟩
        change (if (options.headers.text "Etag").exists then _ else _) = _
        rw [hgiven]
        rfl
      · refine .inl ⟨source, ⟨rfl, fun given hgiven => ?_⟩, ?_⟩
        · rw [hgiven] at absent
          exact nomatch absent
        · change (if (options.headers.text "Etag").exists then _ else _) = _
          rw [absent]
          rfl

/-- Whether the server answered that it stored the object, and the answer was drained. -/
def IsStored (exchange : Exchange) (response : Http.Response) : Prop :=
  exchange.result = .ok response ∧ response.status = .created ∧ response.body.drain = .ok ()

def sentChecksum (source : Stream) (exchange : Exchange) : String :=
  Md5.hex (source.chunks.take exchange.pulled).flatten

/-- What an upload that was sent returns. -/
structure Judged (object : Object) (body : Body) (options : Options) (exchange : Exchange)
    (result : Except Error Unit) : Prop where
  trusted : (∀ source, ¬Verifies body options source) →
    (result = .ok () ↔ ∃ response, IsStored exchange response)
  verified : ∀ source, Verifies body options source →
    (result = .ok () ↔ ∃ response, IsStored exchange response ∧
      IsReported response.fields (sentChecksum source exchange))
  mismatched : ∀ source response reported, Verifies body options source →
    IsStored exchange response → IsReported response.fields reported →
    reported ≠ sentChecksum source exchange →
    result = .error (.checksumMismatch (sentChecksum source exchange) reported)
  whole : ∀ source memory, Verifies body options source →
    source.chunks.length ≤ exchange.pulled → memory.content? = some source.chunks.flatten →
    ∃ message, (object.put memory options).written object.site.endpoint = .ok message ∧
      message.fields.get? "etag" = some ⟨Utf8.ofText (sentChecksum source exchange), []⟩

theorem Verifies.unique {body : Body} {options : Options} {source other : Stream}
    (first : Verifies body options source) (second : Verifies body options other) :
    other = source :=
  Body.stream.inj (second.1.symm.trans first.1)

theorem IsStored.unique {exchange : Exchange} {response other : Http.Response}
    (first : IsStored exchange response) (second : IsStored exchange other) : other = response :=
  Except.ok.inj (second.1.symm.trans first.1)

/-- What an upload makes of its exchange. -/
def returned (body : Body) (options : Options) (exchange : Exchange) : Except Error Unit :=
  match exchange.result with
  | .error error => .error error
  | .ok response => verify (hashedChunks? body options.headers) exchange.pulled response.fields

def leftBy (object : Object) (exchange : Exchange) : Object :=
  match exchange.result with
  | .error _ => object
  | .ok _ => Handle.invalidated object

private theorem attempt_upload_of_exchange {transport : Transport σ} {object : Object} {body : Body}
    {options : Options} {state next : σ} {exchange : Exchange}
    (run : (object.put body options).exchange transport object.site.endpoint state =
      (exchange, next)) :
    (Object.upload transport body options).attempt (object, state) =
      (returned body options exchange, (leftBy object exchange, next)) := by
  rw [attempt_upload, run]
  obtain ⟨result, pulled⟩ := exchange
  cases result <;> rfl

section

variable {object : Object} {body : Body} {options : Options} {message : Http.Request}
  {sent : Exchange}

theorem put_accepts_iff {response : Http.Response} :
    (object.put body options).Accepts response ↔
      response.status = .created ∧ response.body.drain = .ok () := by
  constructor
  · intro accepts
    refine ⟨?_, accepts.drained rfl⟩
    simpa [Request.isExpected, put, Handle.request, Request.plain] using accepts.expected
  · rintro ⟨status, drained⟩
    refine ⟨?_, fun _ => drained⟩
    simp [Request.isExpected, put, Handle.request, Request.plain, status]

theorem checksum_of_whole {source : Stream} {memory : Body}
    (written : (object.put body options).written object.site.endpoint = .ok message)
    (verifies : Verifies body options source) (whole : source.chunks.length ≤ sent.pulled)
    (held : memory.content? = some source.chunks.flatten) :
    ∃ message, (object.put memory options).written object.site.endpoint = .ok message ∧
      message.fields.get? "etag" = some ⟨Utf8.ofText (sentChecksum source sent), []⟩ := by
  cases other : (object.put memory options).written object.site.endpoint with
  | error error =>
      rw [put_error_iff, ← put_error_iff object body, written] at other
      exact nomatch other
  | ok copy =>
      refine ⟨copy, rfl, ?_⟩
      have chosen : options.headers.chosen "Etag" (Md5.hex source.chunks.flatten) =
          sentChecksum source sent := by
        rw [sentChecksum, List.take_of_length_le whole, Headers.chosen]
        split
        · next given hgiven => exact absurd hgiven (verifies.2 given)
        · rfl
      rw [(carries_of_written other).checksum _ held, chosen]

private theorem judged_of_failed {error : Error}
    (written : (object.put body options).written object.site.endpoint = .ok message)
    (unstored : ∀ response, ¬IsStored sent response) :
    Judged object body options sent (.error error) where
  trusted _ := iff_of_false nofun fun ⟨response, stored⟩ => unstored response stored
  verified _ _ := iff_of_false nofun fun ⟨response, stored, _⟩ => unstored response stored
  mismatched _ response _ _ stored := absurd stored (unstored response)
  whole _ _ := checksum_of_whole written

private theorem judged_of_trusted {response : Http.Response} (stored : IsStored sent response)
    (trusts : ∀ source, ¬Verifies body options source) :
    Judged object body options sent (.ok ()) where
  trusted _ := iff_of_true rfl ⟨response, stored⟩
  verified source verifies := absurd verifies (trusts source)
  mismatched source _ _ verifies := absurd verifies (trusts source)
  whole source _ verifies := absurd verifies (trusts source)

private theorem judged_of_verified {source : Stream} {response : Http.Response}
    (written : (object.put body options).written object.site.endpoint = .ok message)
    (stored : IsStored sent response) (verifies : Verifies body options source) :
    Judged object body options sent
      (verify (some source.chunks) sent.pulled response.fields) := by
  have outcome : verify (some source.chunks) sent.pulled response.fields =
      if reportedChecksum response.fields = sentChecksum source sent then .ok ()
      else .error (.checksumMismatch (sentChecksum source sent)
        (reportedChecksum response.fields)) := by
    simp only [verify, checksum_eq, sentChecksum, eq_comm]
  rw [outcome]
  constructor
  case trusted =>
    intro trusts
    exact absurd verifies (trusts source)
  case verified =>
    intro other verifies'
    obtain rfl := verifies.unique verifies'
    constructor
    · intro accepted
      split at accepted
      · next same => exact ⟨response, stored, isReported_iff.mpr same⟩
      · exact nomatch accepted
    · rintro ⟨answer, stored', reported⟩
      obtain rfl := stored.unique stored'
      rw [if_pos (isReported_iff.mp reported)]
  case mismatched =>
    intro other answer reported verifies' stored' isReported differs
    obtain rfl := verifies.unique verifies'
    obtain rfl := stored.unique stored'
    obtain rfl := isReported_iff.mp isReported
    rw [if_neg differs]
  case whole =>
    intro other memory verifies' whole held
    exact checksum_of_whole written verifies' whole held

theorem returned_judged {concluded : Exchange}
    (written : (object.put body options).written object.site.endpoint = .ok message)
    (conclusion : (object.put body options).Concluded sent concluded) :
    Judged object body options sent (returned body options concluded) := by
  cases conclusion with
  | unanswered => exact judged_of_failed written fun response stored => nomatch stored.1
  | refused refusal =>
      refine judged_of_failed written fun response stored => ?_
      obtain ⟨answered, stored⟩ := stored
      cases answered
      exact refusal.not_accepts (put_accepts_iff.mpr stored)
  | @accepted response pulled accepts =>
      have stored : IsStored ⟨.ok response, pulled⟩ response := ⟨rfl, put_accepts_iff.mp accepts⟩
      unfold returned
      dsimp only
      rw [Handle.fields_taken]
      rcases hashedChunks?_cases body options with ⟨source, verifies, hashed⟩ | ⟨trusts, hashed⟩
      · rw [hashed]
        exact judged_of_verified written stored verifies
      · rw [hashed]
        exact judged_of_trusted stored trusts

/-! ## Whole uploads -/

/-- How an upload ends, by what was sent for it. -/
inductive Integral (object : Object) (body : Body) (options : Options) :
    Except Error Unit → Sends → Prop
  | unsent {error : Error}
      (unwritten : (object.bare options).written object.site.endpoint = .error error) :
      Integral object body options (.error error) []
  | sent {result : Except Error Unit} {message : Http.Request} {exchange : Exchange}
      (carries : Carries object body options message)
      (judged : Judged object body options exchange result) :
      Integral object body options result [(message, exchange)]

/--
An upload sends nothing if the caller's own headers cannot be sent, and else its content once;
what it returns is decided by the answer and, for a stream, by the checksum of what was read.
-/
theorem upload_integrity (transport : Transport σ) (object : Object) (body : Body)
    (options : Options) (events : List Observation) (state : σ) :
    ∃ result new last after,
      (Object.upload transport body options).attempt (object, state) = (result, (after, last)) ∧
      (Object.upload transport.observed body options).attempt (object, (events, state)) =
        (result, (after, (events ++ new, last))) ∧
      Integral object body options result (Observation.sends new) := by
  rcases (object.put body options).exchange_cases transport object.site.endpoint state with
    ⟨error, unwritten, run⟩ | ⟨message, sent, concluded, next, written, send, run, conclusion⟩
  · have observed : (object.put body options).exchange transport.observed object.site.endpoint
        (events, state) = (⟨.error error, 0⟩, (events, state)) :=
      Request.exchange_of_unwritten unwritten
    refine ⟨.error error, [], state, object, attempt_upload_of_exchange run, ?_,
      .unsent ((put_error_iff object body options error).mp unwritten)⟩
    rw [List.append_nil]
    exact attempt_upload_of_exchange observed
  · have observed := Request.observed_exchange written events send
    rw [run] at observed
    exact ⟨_, [.send message sent], next, _, attempt_upload_of_exchange run,
      attempt_upload_of_exchange observed, .sent (carries_of_written written)
        (returned_judged written conclusion)⟩

end

end Object

end ObjectStorage
