import ObjectStorage.Bulk.Upload
import ObjectStorage.Proofs.Bulk.Deletion
import ObjectStorage.Proofs.Cache.Applied
import ObjectStorage.Proofs.Headers.Sending
import ObjectStorage.Proofs.Listing.Positions

/-!
# Operations that are refused

A request has no message if a name of it is not proper, if a header of it cannot be sent, or if its
address is none that can be sent to.  An operation that begins with such a request is refused: it
fails at once, and leaves all as it was.
-/

namespace ObjectStorage

/-! ## Requests without message -/

/-- The errors of what cannot be asked for. -/
inductive Error.IsRefusal : Error → Prop
  | invalidRequest (fault : RequestFault) : IsRefusal (.invalidRequest fault)
  | badHeader (name : String) (fault : HeaderFault) : IsRefusal (.badHeader name fault)

theorem Error.IsRefusal.isNotFound_eq_false {error : Error} (refusal : error.IsRefusal) :
    error.isNotFound = false := by
  cases refusal <;> rfl

namespace Address

/-- Whether the names, as far as there are any, can stand in an address. -/
def AreProper (container object : Option String) : Prop :=
  ∀ name, container = some name → check name object = .ok ()

theorem areProper_some {container : String} {object : Option String} :
    AreProper (some container) object ↔ check container object = .ok () := by
  constructor
  · exact fun proper => proper container rfl
  · rintro checked _ ⟨⟩
    exact checked

end Address

private theorem Headers.sendable_of_refusal? {entry : String × String} (h : refusal? entry = none) :
    Http.fieldName? entry.1 ≠ none ∧ Http.fieldValue? entry.2 ≠ none := by
  unfold refusal? at h
  split at h
  · exact nomatch h
  · exact nomatch h
  · next name value => simp [name, value]

namespace Request

variable {request : Request} {endpoint : Url}

/-- Why there is no message for a request. -/
inductive IsRefused (request : Request) (endpoint : Url) : Prop
  | names (improper : ¬Address.AreProper request.container request.object)
  | header (entry : String × String) (held : entry ∈ request.options.headers.toList)
      (unsendable : Http.fieldName? entry.1 = none ∨ Http.fieldValue? entry.2 = none)
  | address
      (unread : ∀ url, request.url endpoint = .ok url → ∃ fault, target url = .error fault)

private theorem areProper_of_path {text : String} (h : request.path = .ok text) :
    Address.AreProper request.container request.object := by
  intro container named
  unfold path at h
  rw [named] at h
  obtain ⟨⟨⟩, checked, -⟩ := ok_of_bind h
  exact checked

private theorem areProper_of_address {url : Url} (h : request.address endpoint = .ok url) :
    Address.AreProper request.container request.object := by
  obtain ⟨text, path, -⟩ := ok_of_bind h
  exact areProper_of_path path

theorem url_of_improper (improper : ¬Address.AreProper request.container request.object) :
    ∃ fault, request.url endpoint = .error (.invalidRequest fault) := by
  unfold Request.url
  cases found : request.address endpoint with
  | error fault => exact ⟨fault, rfl⟩
  | ok url => exact absurd (areProper_of_address found) improper

theorem areProper_of_written {message : Http.Request} (h : request.written endpoint = .ok message) :
    Address.AreProper request.container request.object := by
  by_contra improper
  obtain ⟨url, located, -⟩ := ok_of_bind h
  obtain ⟨fault, refused⟩ := request.url_of_improper improper
  exact nomatch refused.symm.trans located

theorem sendable_of_written {message : Http.Request} (h : request.written endpoint = .ok message) :
    ∀ entry ∈ request.options.headers.toList, Headers.refusal? entry = none := by
  cases found : request.options.headers.toList.findSome? Headers.refusal? with
  | none => exact List.findSome?_eq_none_iff.mp found
  | some error =>
      have refused := (Headers.toFields_error_iff request.options.headers).mpr found
      exact nomatch refused.symm.trans (fields_of_written h)

theorem IsRefused.exists_written_eq (refused : request.IsRefused endpoint) :
    ∃ error, error.IsRefusal ∧ request.written endpoint = .error error := by
  cases written : request.written endpoint with
  | error error =>
      refine ⟨error, ?_, rfl⟩
      rcases error_of_unwritten written with ⟨fault, rfl⟩ | ⟨name, fault, rfl⟩
      · exact .invalidRequest fault
      · exact .badHeader name fault
  | ok message =>
      cases refused with
      | names improper => exact absurd (areProper_of_written written) improper
      | header entry held unsendable =>
          obtain ⟨name, value⟩ :=
            Headers.sendable_of_refusal? (sendable_of_written written entry held)
          exact absurd unsendable (not_or.mpr ⟨name, value⟩)
      | address unread =>
          obtain ⟨url, located, message⟩ := ok_of_bind written
          obtain ⟨fault, failed⟩ := unread url located
          exact nomatch failed.symm.trans (target_of_message message)

end Request

/-! ## Operations -/

namespace Remote

variable {σ τ α β : Type}

/-- The operation fails before it has done anything. -/
def Refuses (operation : Remote σ α) (state : σ) : Prop :=
  ∃ error, error.IsRefusal ∧ operation.attempt state = (.error error, state)

variable {operation : Remote σ α} {state : σ}

theorem refuses_ofExcept {result : Except Error α} {error : Error} (refusal : error.IsRefusal)
    (failed : result = .error error) : (Remote.ofExcept result).Refuses state :=
  ⟨error, refusal, by rw [attempt_ofExcept, failed]⟩

theorem refuses_mapError {ε : Type} {result : Except ε α} {change : ε → Error} {fault : ε}
    (refusal : ∀ fault, (change fault).IsRefusal) (failed : result = .error fault) :
    (Remote.ofExcept (result.mapError change)).Refuses state := by
  refine refuses_ofExcept (refusal fault) ?_
  rw [failed]
  rfl

namespace Refuses

theorem bind {next : α → Remote σ β} (refuses : operation.Refuses state) :
    (operation >>= next).Refuses state := by
  obtain ⟨error, refusal, run⟩ := refuses
  refine ⟨error, refusal, ?_⟩
  rw [attempt_bind, run]

theorem bind_of_ok {next : α → Remote σ β} {value : α}
    (run : operation.attempt state = (.ok value, state)) (refuses : (next value).Refuses state) :
    (operation >>= next).Refuses state := by
  obtain ⟨error, refusal, rest⟩ := refuses
  refine ⟨error, refusal, ?_⟩
  rw [attempt_bind, run]
  exact rest

theorem after_get {next : σ → Remote σ β} (refuses : (next state).Refuses state) :
    (get >>= next).Refuses state :=
  refuses.bind_of_ok attempt_get

theorem after_ofExcept {result : Except Error α} {next : α → Remote σ β} {value : α}
    (given : result = .ok value) (refuses : (next value).Refuses state) :
    (Remote.ofExcept result >>= next).Refuses state := by
  refine refuses.bind_of_ok ?_
  rw [attempt_ofExcept, given]

theorem after_mapError {ε : Type} {result : Except ε α} {change : ε → Error}
    {next : α → Remote σ β} {value : α} (given : result = .ok value)
    (refuses : (next value).Refuses state) :
    (Remote.ofExcept (result.mapError change) >>= next).Refuses state := by
  refine refuses.after_ofExcept ?_
  rw [given]
  rfl

theorem map (change : α → β) (refuses : operation.Refuses state) :
    (change <$> operation).Refuses state := by
  obtain ⟨error, refusal, run⟩ := refuses
  refine ⟨error, refusal, ?_⟩
  rw [attempt_map, run]
  rfl

theorem onSecond (refuses : operation.Refuses state) (first : τ) :
    (Remote.onSecond operation).Refuses (first, state) := by
  obtain ⟨error, refusal, run⟩ := refuses
  refine ⟨error, refusal, ?_⟩
  rw [attempt_onSecond, run]

end Refuses

end Remote

variable {σ : Type} (transport : Transport σ) {request : Request} {endpoint : Url}

namespace Request.IsRefused

theorem exists_exchange_eq (refused : request.IsRefused endpoint) (state : σ) :
    ∃ error, error.IsRefusal ∧
      request.exchange transport endpoint state = (⟨.error error, 0⟩, state) := by
  obtain ⟨error, refusal, unwritten⟩ := refused.exists_written_eq
  exact ⟨error, refusal, exchange_of_unwritten unwritten⟩

theorem execute_refuses (refused : request.IsRefused endpoint) (state : σ) :
    (request.execute transport endpoint).Refuses state := by
  obtain ⟨error, refusal, run⟩ := refused.exists_exchange_eq transport state
  refine ⟨error, refusal, ?_⟩
  rw [attempt_execute, run]

end Request.IsRefused

/-! ## Operations on handles -/

namespace Handle

variable {kind : Kind} {handle : Handle kind} {state : σ}

theorem execute_refuses (refused : request.IsRefused handle.site.endpoint) :
    (Handle.execute transport request).Refuses (handle, state) :=
  .after_get ((refused.execute_refuses transport state).onSecond handle)

theorem headers_refuses (empty : handle.cached = none)
    (refused : handle.fetch.IsRefused handle.site.endpoint) :
    (Handle.headers transport).Refuses (handle, state) := by
  refine .after_get ?_
  simp only [empty]
  exact (execute_refuses transport refused).bind

theorem exists?_refuses (refuses : (Handle.headers transport).Refuses (handle, state)) :
    (Handle.exists? transport).Refuses (handle, state) := by
  obtain ⟨error, refusal, run⟩ := refuses
  refine ⟨error, refusal, ?_⟩
  -- Nothing was answered, hence not that there is nothing.
  rw [attempt_exists?, run]
  simp [foundBy, refusal.isNotFound_eq_false]

theorem change_refuses {method : Http.Method} {options : Options} {expected : List Http.Status}
    (refused : (handle.request method options expected).IsRefused handle.site.endpoint) :
    (Handle.change transport method options expected).Refuses (handle, state) :=
  .after_get (execute_refuses transport refused).bind

theorem fetch_isRefused
    (improper : ¬Address.AreProper handle.place.container? handle.place.object?) :
    handle.fetch.IsRefused handle.site.endpoint := by
  apply Request.IsRefused.names
  cases kind <;> exact improper

end Handle

namespace Object

variable {object source target : Object} {state : σ} {options : Options}

theorem upload_refuses {body : Body}
    (refused : (object.put body options).IsRefused object.site.endpoint) :
    (Object.upload transport body options).Refuses (object, state) := by
  obtain ⟨error, refusal, run⟩ := refused.exists_exchange_eq transport state
  refine ⟨error, refusal, ?_⟩
  rw [attempt_upload, run]

theorem download_refuses
    (refused : Request.IsRefused { object.request .get options [.ok] with drains := false }
      object.site.endpoint) :
    (Object.download transport options).Refuses (object, state) :=
  .after_get (Handle.execute_refuses transport refused).bind

theorem copyFrom_refuses_target
    (improper : ¬Address.AreProper (some target.containerName) (some target.name)) :
    (Object.copyFrom transport source options).Refuses (target, state) := by
  refine .after_get (.bind ?_)
  cases checked : Address.check target.containerName (some target.name) with
  | error fault => exact Remote.refuses_mapError .invalidRequest rfl
  | ok => exact absurd (Address.areProper_some.mpr checked) improper

/-- The names of the target are looked at before the source is. -/
theorem copyFrom_refuses
    (refused : (copyRequest source target options).IsRefused source.site.endpoint) :
    (Object.copyFrom transport source options).Refuses (target, state) := by
  cases checked : Address.check target.containerName (some target.name) with
  | error fault =>
      refine copyFrom_refuses_target transport fun proper => ?_
      exact nomatch (Address.areProper_some.mp proper).symm.trans checked
  | ok =>
      refine .after_get (.after_mapError checked ?_)
      exact ((refused.execute_refuses transport state).onSecond target).bind

theorem move_refuses {deleteOptions : Options}
    (refuses : (Object.copyFrom transport source options).Refuses (target, state)) :
    (Object.move transport options deleteOptions).Refuses (source, target, state) :=
  .after_get (refuses.onSecond source).bind

end Object

/-! ## Operations on accounts -/

namespace Account

variable {account : Account} {state : σ} {options : Options}

def infoRequest : Request := ⟨.get, some "info", none, .none, .empty, [.ok], false⟩

theorem capabilities_refuses_root {fault : RequestFault}
    (rootless : Site.clusterRoot account.site.endpoint = .error fault) :
    (Account.capabilities transport account).Refuses state :=
  (Remote.refuses_mapError .invalidRequest rootless).bind

theorem capabilities_refuses {root : Url}
    (rooted : Site.clusterRoot account.site.endpoint = .ok root)
    (refused : infoRequest.IsRefused root) :
    (Account.capabilities transport account).Refuses state :=
  .after_mapError rooted (refused.execute_refuses transport state).bind

private theorem paths_error {name : String} {all : List Doomed} {doomed : Doomed}
    (among : doomed ∈ all)
    (other : ¬doomed.IsOf name) : ∃ fault, paths name all = .error fault := by
  cases found : paths name all with
  | error fault => exact ⟨fault, rfl⟩
  | ok lines => exact absurd ((isOf_of_paths found).1 doomed among) other

/-- All handles are looked at before the first batch is sent. -/
theorem bulkDelete_refuses_doomed {objects : List Object} {containers : List Container}
    {doomed : Doomed} (among : doomed ∈ allDoomed objects containers)
    (other : ¬doomed.IsOf account.site.account) :
    (Account.bulkDelete transport account objects containers options).Refuses state := by
  obtain ⟨fault, refused⟩ := paths_error among other
  refine ⟨.invalidRequest fault, .invalidRequest fault, ?_⟩
  rw [attempt_bulkDelete, refused]

theorem bulkDelete_refuses {objects : List Object} {containers : List Container}
    {lines batch : List String} {rest : List (List String)}
    (given : paths account.site.account (allDoomed objects containers) = .ok lines)
    (first : batches account.site.settings.bulkDeleteBatchSize.toNat lines = batch :: rest)
    (refused : (deleteRequest options batch).IsRefused account.site.endpoint) :
    (Account.bulkDelete transport account objects containers options).Refuses state := by
  have refuses : (deleteBatches transport account.site options ⟨0, 0, none⟩
      (batch :: rest)).Refuses state :=
    (refused.execute_refuses transport state).bind.bind
  obtain ⟨error, refusal, run⟩ := refuses
  refine ⟨error, refusal, ?_⟩
  rw [attempt_bulkDelete, given]
  dsimp only
  rw [first, run]

theorem bulkUpload_refuses {path : String} {format : ArchiveFormat} {archive : Body}
    (refused : (extractRequest path format archive options).IsRefused account.site.endpoint) :
    (Account.bulkUpload transport account path format archive options).Refuses state :=
  (refused.execute_refuses transport state).bind

end Account

/-! ## Listings -/

namespace Listing

variable {kind : Kind} {listing : Listing kind} {state : σ} {marker : String}
  {limit : Option UInt64} {detailed : Bool}

theorem fetch_refuses (going : listing.position = .after marker)
    (refused : (listing.request marker limit detailed).IsRefused listing.site.endpoint) :
    (fetch transport limit detailed).Refuses (listing, state) := by
  refine .after_get ?_
  simp only [going]
  exact ((refused.execute_refuses transport state).onSecond listing).bind

theorem nextPage_refuses (going : listing.position = .after marker)
    (refused : (listing.request marker limit false).IsRefused listing.site.endpoint) :
    (nextPage transport limit).Refuses (listing, state) :=
  .after_get (fetch_refuses transport going refused).bind.bind

theorem nextPageDetailed_refuses (going : listing.position = .after marker)
    (refused : (listing.request marker limit true).IsRefused listing.site.endpoint) :
    (nextPageDetailed transport limit).Refuses (listing, state) :=
  .after_get (fetch_refuses transport going refused).bind.bind

end Listing

end ObjectStorage
