import Mathlib.Logic.Function.Basic
import ObjectStorage.Proofs.Address.Target
import ObjectStorage.Proofs.Copy.Destination
import ObjectStorage.Proofs.Copy.Storage

/-!
# What moves leave

A move copies and then deletes, and deletes nothing unless the copy was answered as done and read to
the end.  On a server that stores objects the content is therefore kept by every way in which it may
fail, and is at the target when it succeeds; but moved onto itself, an object is gone.
-/

namespace ObjectStorage

/-- Whether the endpoint is that of the account right below the root. -/
structure Site.IsOn (root : List String) (site : Site) : Prop where
  web : ∃ host segments segment, site.endpoint.IsWeb host segments ∧
    Url.bare segments = root ++ [segment] ∧ Percent.decode? segment = some site.account
  noQuery : site.endpoint.query = none
  noFragment : site.endpoint.fragment = none

theorem Location.within?_pieces (account container name : String) :
    Location.within? account ((Address.pieces container (some name)).map Address.segment) =
      some ⟨account, container, name⟩ := by
  have decoded : ∀ pieces : List String,
      (pieces.map Address.segment).mapM Percent.decode? = some pieces := by
    intro pieces
    induction pieces with
    | nil => rfl
    | cons first rest ih =>
        rw [List.map_cons, List.mapM_cons, Address.decode?_segment, ih]
        rfl
  obtain ⟨first, rest, cut⟩ := List.exists_cons_of_ne_nil (Address.splitString_ne_nil name)
  have joined := Address.join_splitString name
  unfold Location.within?
  rw [decoded, Address.pieces, cut]
  rw [cut, List.map_cons] at joined
  simp [joined]

namespace Object

variable {σ : Type} {root : List String}

def location (object : Object) : Location :=
  ⟨object.site.account, object.containerName, object.name⟩

private theorem below_request (object : Object) (method : Http.Method) (options : Options)
    (expected : List Http.Status) :
    Address.below (object.request method options expected).container
        (object.request method options expected).object =
      (Address.pieces object.containerName (some object.name)).map Address.segment := by
  obtain ⟨site, ⟨⟩, cached⟩ := object
  rfl

theorem place?_of_written {object : Object} (on : object.site.IsOn root) {method : Http.Method}
    {options : Options} {expected : List Http.Status} {message : Http.Request}
    (written : (object.request method options expected).written object.site.endpoint =
      .ok message) : message.place? root = some object.location := by
  obtain ⟨host, segments, segment, web, shape, account⟩ := on.web
  have cut := Request.split_path_of_written web on.noQuery on.noFragment written
  have skipped : ∀ before rest : List String,
      before.isPrefixOf? (before ++ rest) = some rest := by
    intro before rest
    induction before with
    | nil => rfl
    | cons first others ih => simp [List.isPrefixOf?, ih]
  rw [below_request, shape, Url.rooted_of_ne_nil (by simp), List.append_assoc] at cut
  rw [Http.Request.place?, Location.ofPath?, cut, ← List.cons_append, skipped]
  simp only [List.singleton_append, account, Option.bind_eq_bind, Option.bind_some,
    Location.within?_pieces, location]

private theorem goal?_of_written {source target : Object} (on : source.site.IsOn root)
    {options : Options}
    (harmless : options.headers.get? "Destination-Account" = none) {message : Http.Request}
    (written : (copyRequest source target options).written source.site.endpoint = .ok message) :
    message.goal? root = some target.location := by
  have origin := place?_of_written on written
  have destination := destination_of_written written
  have account := (isCopyOf_of_written written).account
  have cut := Address.splitString_path target.containerName (some target.name)
  unfold Http.Request.goal? Http.Fields.first?
  rw [origin, destination, account, namedAccount?]
  by_cases same : source.site.account = target.site.account
  · rw [if_pos same, harmless]
    simp [cut, Location.within?_pieces, location, same]
  · rw [if_neg same]
    simp [cut, Location.within?_pieces, location]

/-! ## Each request -/

/-- What is left when a copy was sent, or was not. -/
structure CopyLeaves (contents : σ → Location → Option Bytes) (source target : Object)
    (sends : Sends) (result : Except Error Http.Response) (state last : σ) : Prop where
  methods : ∀ send ∈ sends, send.1.method = .copy
  keeps : ∀ location, location ≠ target.location →
    contents last location = contents state location
  accepted : ∀ response, result = .ok response → IsCopied sends
  stored : ∀ response, result = .ok response → source.location ≠ target.location →
    contents last target.location = contents state source.location

/-- What is left when a deletion was sent, or was not. -/
structure DeleteLeaves (contents : σ → Location → Option Bytes) (source : Object)
    (result : Except Error Http.Response) (state last : σ) : Prop where
  keeps : ∀ location, location ≠ source.location →
    contents last location = contents state location
  removed : ∀ response, result = .ok response → contents last source.location = none

section

variable {contents : σ → Location → Option Bytes} {transport : Transport σ}
  {source target : Object} {options : Options} {state last : σ} {sends : Sends}
  {result : Except Error Http.Response}

theorem copyLeaves_of_executed (stores : Stores root contents transport)
    (on : source.site.IsOn root) (harmless : options.headers.get? "Destination-Account" = none)
    (executed : Request.Executed (copyRequest source target options) source.site.endpoint result
      sends) (answers : transport.Answers sends state last) :
    CopyLeaves contents source target sends result state last := by
  have keeps {message : Http.Request} {exchange : Exchange}
      (written : (copyRequest source target options).written source.site.endpoint = .ok message)
      (answers : transport.Answers [(message, exchange)] state last) (location : Location)
      (apart : location ≠ target.location) : contents last location = contents state location := by
    obtain ⟨next, sent, rfl⟩ := answers
    have kept := stores.copy_keeps state (Request.method_of_written written)
      (place?_of_written on written) (goal?_of_written on harmless written) apart
    rwa [sent] at kept
  have methods {message : Http.Request} {exchange : Exchange}
      (written : (copyRequest source target options).written source.site.endpoint = .ok message) :
      ∀ send ∈ [(message, exchange)], send.1.method = .copy := by
    intro send hsend
    rw [List.mem_singleton.mp hsend]
    exact Request.method_of_written written
  cases executed with
  | unwritten =>
      obtain rfl : last = state := answers
      exact ⟨fun _ h => absurd h List.not_mem_nil, fun _ _ => rfl, fun _ h => (nomatch h),
        fun _ h => (nomatch h)⟩
  | unanswered written =>
      exact ⟨methods written, keeps written answers, fun _ h => (nomatch h), fun _ h => (nomatch h)⟩
  | refused written refusal =>
      exact ⟨methods written, keeps written answers, fun _ h => (nomatch h), fun _ h => (nomatch h)⟩
  | @accepted message response pulled written accepts =>
      have created : response.status = .created := by
        simpa [Request.isExpected, copyRequest, Handle.request, Request.plain]
          using accepts.expected
      refine ⟨methods written, keeps written answers, fun _ _ => ?_, fun _ _ apart => ?_⟩
      · exact ⟨message, response, pulled, [], rfl, Request.method_of_written written, created,
          accepts.drained rfl⟩
      · obtain ⟨next, sent, rfl⟩ := answers
        have stored := stores.copied state (Request.method_of_written written)
          (place?_of_written on written) (goal?_of_written on harmless written) apart
          (by rw [sent]) created
        rwa [sent] at stored

theorem deleteLeaves_of_executed (stores : Stores root contents transport)
    (on : source.site.IsOn root)
    (executed : Request.Executed (deleteRequest source options) source.site.endpoint result
      sends) (answers : transport.Answers sends state last) :
    DeleteLeaves contents source result state last := by
  have keeps {message : Http.Request} {exchange : Exchange}
      (written : (deleteRequest source options).written source.site.endpoint = .ok message)
      (answers : transport.Answers [(message, exchange)] state last) (location : Location)
      (apart : location ≠ source.location) : contents last location = contents state location := by
    obtain ⟨next, sent, rfl⟩ := answers
    have kept := stores.delete_keeps state (Request.method_of_written written)
      (place?_of_written on written) apart
    rwa [sent] at kept
  cases executed with
  | unwritten =>
      obtain rfl : last = state := answers
      exact ⟨fun _ _ => rfl, fun _ h => (nomatch h)⟩
  | unanswered written => exact ⟨keeps written answers, fun _ h => (nomatch h)⟩
  | refused written refusal => exact ⟨keeps written answers, fun _ h => (nomatch h)⟩
  | @accepted message response pulled written accepts =>
      have noContent : response.status = .noContent := by
        simpa [Request.isExpected, deleteRequest, Handle.request, Request.plain]
          using accepts.expected
      refine ⟨keeps written answers, fun _ _ => ?_⟩
      obtain ⟨next, sent, rfl⟩ := answers
      have removed := stores.deleted state (Request.method_of_written written)
        (place?_of_written on written) (by rw [sent]) noContent
      rwa [sent] at removed

end

/-! ## Whole moves -/

/-- What a move leaves of the content that was at its source. -/
structure MoveLeaves (contents : σ → Location → Option Bytes) (source target : Object)
    (result : Except Error Unit) (sends : Sends) (state last : σ) : Prop where
  deletes : ∀ send ∈ sends, send.1.method = .delete → IsCopied sends
  keeps : source.location ≠ target.location →
    contents last source.location = contents state source.location ∨
      contents last target.location = contents state source.location
  moves : source.location ≠ target.location → result = .ok () →
    contents last target.location = contents state source.location
  loses : source.location = target.location → result = .ok () →
    contents last target.location = none

/--
On a server that stores objects, a move keeps the content at the source or at the target however it
fails, and leaves it at the target when it succeeds, unless both are one object, which is lost then.
-/
theorem move_keeps_content {contents : σ → Location → Option Bytes} {transport : Transport σ}
    (stores : Stores root contents transport) {source : Object} (on : source.site.IsOn root)
    {options : Options} (harmless : options.headers.get? "Destination-Account" = none)
    (target : Object) (deleteOptions : Options) (events : List Observation) (state : σ) :
    ∃ result new last left reached,
      (Object.move transport.observed options deleteOptions).attempt
          (source, (target, (events, state))) =
        (result, (left, (reached, (events ++ new, last)))) ∧
      MoveLeaves contents source target result (Observation.sends new) state last := by
  rw [attempt_move, attempt_copyFrom]
  cases Address.check target.containerName (some target.name) with
  | error fault =>
      refine ⟨.error (.invalidRequest fault), [], state, source, target, ?_,
        fun _ h => absurd h List.not_mem_nil, fun _ => .inl rfl, fun _ h => (nomatch h),
        fun _ h => (nomatch h)⟩
      rw [List.append_nil]
  | ok =>
  obtain ⟨copied, new, next, run, executed, answers⟩ := Request.executed_answers transport
    (copyRequest source target options) source.site.endpoint events state
  have copy := copyLeaves_of_executed stores on harmless executed answers
  dsimp only
  rw [run]
  cases copied with
  | error error =>
      refine ⟨.error error, new, next, source, target, rfl, ?_, ?_, fun _ h => (nomatch h),
        fun _ h => (nomatch h)⟩
      · intro send hsend deletes
        exact absurd ((copy.methods send hsend).symm.trans deletes) (by decide)
      · exact fun apart => .inl (copy.keeps _ apart)
  | ok response =>
  obtain ⟨deleted, others, last, deletion, executed, answers⟩ := Request.executed_answers transport
    (deleteRequest source deleteOptions) source.site.endpoint (events ++ new) next
  have delete := deleteLeaves_of_executed stores on executed answers
  have isCopied : IsCopied (Observation.sends (new ++ others)) := by
    rw [Observation.sends_append]
    exact (copy.accepted response rfl).append _
  have kept (apart : source.location ≠ target.location) :
      contents last target.location = contents state source.location :=
    (delete.keeps _ apart.symm).trans (copy.stored response rfl apart)
  dsimp only
  rw [deletion, List.append_assoc]
  cases deleted with
  | error error =>
      exact ⟨.error error, new ++ others, last, source, target.invalidated, rfl,
        fun _ _ _ => isCopied, fun apart => .inr (kept apart), fun _ h => (nomatch h),
        fun _ h => (nomatch h)⟩
  | ok answer =>
      refine ⟨.ok (), new ++ others, last, source.invalidated, target.invalidated, rfl,
        fun _ _ _ => isCopied, fun apart => .inr (kept apart), fun apart _ => kept apart, ?_⟩
      intro same _
      rw [← same]
      exact delete.removed answer rfl

/-- A server that does nothing but to store objects. -/
def shelf (root : List String) : Transport (Location → Option Bytes) where
  send message := fun held =>
    let refused : Exchange × (Location → Option Bytes) :=
      (⟨.ok ⟨.notFound, .none, .empty⟩, 0⟩, held)
    match message.place? root with
    | none => refused
    | some place =>
        match held place with
        | none => refused
        | some content =>
            if message.method = .copy then
              match message.goal? root with
              | none => refused
              | some goal =>
                  (⟨.ok ⟨.created, .none, .empty⟩, 0⟩, Function.update held goal (some content))
            else if message.method = .delete then
              (⟨.ok ⟨.noContent, .none, .empty⟩, 0⟩, Function.update held place none)
            else refused

theorem stores_shelf (root : List String) : Stores root id (shelf root) where
  copy_keeps held method place goal apart := by
    simp only [shelf, place, goal, method, if_true, id]
    split
    · rfl
    · exact Function.update_of_ne apart _ _
  copied held method place goal apart answered created := by
    simp only [shelf, place, goal, method, if_true, id] at answered ⊢
    split at answered
    · cases answered
      exact absurd created (by decide)
    · next content found => simp [found]
  delete_keeps held method place apart := by
    have notCopy : Http.Method.delete ≠ .copy := by decide
    simp only [shelf, place, method, if_neg notCopy, if_true, id]
    split
    · rfl
    · exact Function.update_of_ne apart _ _
  deleted held method place answered noContent := by
    have notCopy : Http.Method.delete ≠ .copy := by decide
    simp only [shelf, place, method, if_neg notCopy, if_true, id] at answered ⊢
    split at answered
    · cases answered
      exact absurd noContent (by decide)
    · simp

def otherSite : Site :=
  { homeSite with endpoint := { homeSite.endpoint with path := .segments ["v1", "AUTH_other"] }
                  account := "AUTH_other" }

theorem isOn_homeSite : homeSite.IsOn ["v1"] := by
  have stable : Url.parse homeSite.endpoint.text = .ok homeSite.endpoint := by decide +kernel
  obtain ⟨host, segments, -, web⟩ := Url.isWeb_of_parse stable (.inl rfl)
  obtain rfl : ["v1", "AUTH_test"] = segments := Url.Path.segments.inj web.hasPath
  have shape : Url.bare ["v1", "AUTH_test"] = ["v1"] ++ ["AUTH_test"] := by decide +kernel
  have account : Percent.decode? "AUTH_test" = some "AUTH_test" := by decide +kernel
  exact ⟨⟨host, _, "AUTH_test", web, shape, account⟩, rfl, rfl⟩

/-- The contents of a server that holds one object. -/
def onlyAt (location : Location) (content : Bytes) : Location → Option Bytes :=
  Function.update (fun _ => none) location (some content)

/-- A server of which one object is asked with a token. -/
def tokenShelf : Transport (Location → Option Bytes) :=
  (shelf ["v1"]).authorized (.static "tk") standardUserAgent

private theorem stores_tokenShelf : Stores ["v1"] id tokenShelf :=
  (stores_shelf ["v1"]).stores_authorized (fun _ => rfl) (fun _ _ => rfl) standardUserAgent

def homeObject : Object := Handle.fresh homeSite (.object "c" "o")

def otherObject : Object := Handle.fresh otherSite (.object "inbox" "a/b")

theorem move_keeps_content_shelf :
    homeSite.switch "AUTH_other" = .ok otherSite ∧ Stores ["v1"] id tokenShelf ∧
      homeObject.site.IsOn ["v1"] ∧ Options.none.headers.get? "Destination-Account" = none ∧
      ∃ new last left reached,
        (Object.move tokenShelf.observed .none .none).attempt
            (homeObject, (otherObject, ([], onlyAt homeObject.location [1, 2]))) =
          (.ok (), (left, (reached, ([] ++ new, last)))) ∧
        last otherObject.location = some [1, 2] := by
  have sibling : homeSite.switch "AUTH_other" = .ok otherSite := by decide +kernel
  have harmless : Options.none.headers.get? "Destination-Account" = none := by decide +kernel
  have on : homeObject.site.IsOn ["v1"] := isOn_homeSite
  have apart : homeObject.location ≠ otherObject.location := by decide +kernel
  have value : ((Object.move tokenShelf.observed .none .none).attempt
      (homeObject, (otherObject, ([], onlyAt homeObject.location [1, 2])))).1 = .ok () := by
    decide +kernel
  obtain ⟨result, new, last, left, reached, run, leaves⟩ :=
    move_keeps_content stores_tokenShelf on harmless otherObject .none []
      (onlyAt homeObject.location [1, 2])
  rw [run] at value
  obtain rfl : result = .ok () := value
  refine ⟨sibling, stores_tokenShelf, on, harmless, new, last, left, reached, run, ?_⟩
  have moved := leaves.moves apart rfl
  have held : onlyAt homeObject.location [1, 2] homeObject.location = some [1, 2] :=
    Function.update_self _ _ _
  exact moved.trans held

/-- An object that is moved onto itself is copied onto itself, and then deleted. -/
theorem not_kept_on_itself :
    Stores ["v1"] id (shelf ["v1"]) ∧
      ¬∀ (object : Object) (content : Bytes), object.site.IsOn ["v1"] →
      ((Object.move (shelf ["v1"]) .none .none).attempt
          (object, (object, onlyAt object.location content))).1 = .ok () →
      ((Object.move (shelf ["v1"]) .none .none).attempt
          (object, (object, onlyAt object.location content))).2.2.2 object.location =
        some content := by
  refine ⟨stores_shelf ["v1"], fun kept => ?_⟩
  have value : ((Object.move (shelf ["v1"]) .none .none).attempt
      (homeObject, (homeObject, onlyAt homeObject.location [1, 2]))).1 = .ok () := by
    decide +kernel
  have lost : ((Object.move (shelf ["v1"]) .none .none).attempt
      (homeObject, (homeObject, onlyAt homeObject.location [1, 2]))).2.2.2 homeObject.location =
        none := by
    decide +kernel
  have on : homeObject.site.IsOn ["v1"] := isOn_homeSite
  have claimed := kept homeObject [1, 2] on value
  rw [lost] at claimed
  exact nomatch claimed

end Object

end ObjectStorage
