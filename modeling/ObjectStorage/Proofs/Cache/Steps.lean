import ObjectStorage.Proofs.Cache.Calls

/-!
# What one call does to kept headers

A call fetches the headers of a handle, spoils them or spares them; the log says which.  What
becomes of the handle is read off the ways in which its operation can end.
-/

namespace ObjectStorage

open Handle Object

/-! ## What an entry of the log says -/

namespace HandleCall

def touched : HandleCall → List String
  | headers on | exists? on | update on _ _ | createAccount on _ | createContainer on _
  | ensureExists on | deleteContainer on _ | deleteObject on _ | upload on _ _ | download on _
  | invalidate on => [on]
  | copy _ target _ => [target]
  | move source target _ _ _ => [source, target]

def Reads : HandleCall → Prop
  | headers _ | exists? _ | download _ _ => True
  | _ => False

def Mutates : HandleCall → Prop
  | headers _ | exists? _ | download _ _ | invalidate _ => False
  | _ => True

end HandleCall

def Handle.accepted (kind : Kind) (method : Http.Method) : List Http.Status :=
  if method = .post then updateStatuses kind
  else if method = .put then (if kind = .object then [.created] else [.created, .accepted])
  else if method = .delete then [.noContent]
  else if method = .copy then [.created]
  else fetchStatuses kind

namespace Entry

/-- The call succeeded, and fetched headers with the response. -/
inductive Fetches (name : String) (response : Http.Response) : Entry → Prop
  | headers {message : Http.Request} {pulled : Nat} (sent : IsFetch message.method) :
      Fetches name response ⟨.headers name, .ok (.headers (.ofFields response.fields)),
        [(message, ⟨.ok response, pulled⟩)]⟩
  | exists? {message : Http.Request} {pulled : Nat} (sent : IsFetch message.method) :
      Fetches name response ⟨.exists? name, .ok (.found true), [(message, ⟨.ok response, pulled⟩)]⟩
  | ensureExists {message : Http.Request} {pulled : Nat} (sent : IsFetch message.method) :
      Fetches name response ⟨.ensureExists name, .ok .done, [(message, ⟨.ok response, pulled⟩)]⟩
  | download {options : Options} {message : Http.Request} {pulled : Nat}
      (sent : message.method = .get) :
      Fetches name response ⟨.download name options,
        .ok (.content ⟨.ofFields response.fields, response.body⟩),
        [(message, ⟨.ok response, pulled⟩)]⟩

/-- The call made the headers that the handle may have kept worthless. -/
inductive Spoils (name : String) : Entry → Prop
  | update {headers : Headers} {options : Options} {answer : Answer} {sends : Sends} :
      Spoils name ⟨.update name headers options, .ok answer, sends⟩
  | createAccount {options : Options} {answer : Answer} {sends : Sends} :
      Spoils name ⟨.createAccount name options, .ok answer, sends⟩
  | createContainer {options : Options} {answer : Answer} {sends : Sends} :
      Spoils name ⟨.createContainer name options, .ok answer, sends⟩
  | ensureExists {answer : Answer} {sends : Sends} {message : Http.Request} {exchange : Exchange}
      (sent : (message, exchange) ∈ sends) (created : message.method = .put) :
      Spoils name ⟨.ensureExists name, .ok answer, sends⟩
  | deleteContainer {options : Options} {answer : Answer} {sends : Sends} :
      Spoils name ⟨.deleteContainer name options, .ok answer, sends⟩
  | deleteObject {options : Options} {answer : Answer} {sends : Sends} :
      Spoils name ⟨.deleteObject name options, .ok answer, sends⟩
  | upload {body : Body} {options : Options} {answer : Answer} {sends : Sends} :
      Spoils name ⟨.upload name body options, .ok answer, sends⟩
  /-- The checksums were found to differ, which is not what the transport failed with. -/
  | mismatch {body : Body} {options : Options} {expected actual : String} {sends : Sends}
      (found : ∀ sent ∈ sends, sent.2.result ≠ .error (.checksumMismatch expected actual)) :
      Spoils name ⟨.upload name body options, .error (.checksumMismatch expected actual), sends⟩
  | copy {source : String} {options : Options} {answer : Answer} {sends : Sends} :
      Spoils name ⟨.copy source name options, .ok answer, sends⟩
  | moveOnto {source : String} {distinct : source ≠ name} {options deleteOptions : Options}
      {result : Except Error Answer} {sends : Sends} (copied : IsCopied sends) :
      Spoils name ⟨.move source name distinct options deleteOptions, result, sends⟩
  | moveFrom {target : String} {distinct : name ≠ target} {options deleteOptions : Options}
      {answer : Answer} {sends : Sends} :
      Spoils name ⟨.move name target distinct options deleteOptions, .ok answer, sends⟩
  | invalidate {answer : Answer} {sends : Sends} :
      Spoils name ⟨.invalidate name, .ok answer, sends⟩

/-- Neither given headers nor lost them. -/
structure Spares (entry : Entry) (name : String) : Prop where
  unspoiled : ¬entry.Spoils name
  unfetched : ∀ response, ¬entry.Fetches name response

/-- No answer had a status that is accepted for the handles that the call may change. -/
def Unaccepted (entry : Entry) (client : Client) : Prop :=
  ∀ sent ∈ entry.sends, ∀ response, sent.2.result = .ok response →
    ∀ name ∈ entry.call.touched, ∀ {kind : Kind} (handle : Handle kind),
      client.get? name = some (.ofHandle handle) →
      response.status ∉ Handle.accepted kind sent.1.method

/-- The headers were fetched; that failed if nothing valid came of it. -/
inductive FetchesAnew {kind : Kind} (handle : Handle kind) : Entry → Prop
  | unwritten {call : HandleCall} {error : Error}
      (unwritten : handle.fetch.written handle.site.endpoint = .error error) :
      FetchesAnew handle ⟨call, .error error, []⟩
  | failed {call : HandleCall} {error : Error} {message : Http.Request} {exchange : Exchange}
      (written : handle.fetch.written handle.site.endpoint = .ok message)
      (invalid : ∀ response, exchange.result = .ok response → handle.fetch.Accepts response →
        (Headers.ofFields response.fields).validate kind ≠ .ok ()) :
      FetchesAnew handle ⟨call, .error error, [(message, exchange)]⟩
  | fetched {call : HandleCall} {message : Http.Request} {response : Http.Response} {pulled : Nat}
      (written : handle.fetch.written handle.site.endpoint = .ok message) :
      FetchesAnew handle ⟨call, .ok (.headers (.ofFields response.fields)),
        [(message, ⟨.ok response, pulled⟩)]⟩

variable {entry : Entry} {name : String}

private theorem Fetches.mem_touched {response : Http.Response}
    (fetches : entry.Fetches name response) : name ∈ entry.call.touched := by
  cases fetches <;> exact List.mem_singleton.mpr rfl

private theorem Spoils.mem_touched (spoils : entry.Spoils name) : name ∈ entry.call.touched := by
  cases spoils <;> simp [HandleCall.touched]

theorem spares_of_not_mem (h : name ∉ entry.call.touched) : entry.Spares name :=
  ⟨fun spoils => h spoils.mem_touched, fun _ fetches => h fetches.mem_touched⟩

end Entry

/-! ## One call -/

namespace Client

variable {client : Client} {name : String}

theorem get?_put (client : Client) (name other : String) (held : Held) :
    (client.put name held).get? other = if other = name then some held else client.get? other :=
  client.held.get?_insert name other held

theorem get?_put_same {held : Held} (h : client.get? name = some held) (other : String) :
    (client.put name held).get? other = client.get? other := by
  rw [get?_put]
  split
  · next same => rw [same, h]
  · rfl

end Client

theorem Held.eq_of_ofHandle {first second : Kind} (one : Handle first) (other : Handle second)
    (h : Held.ofHandle one = Held.ofHandle other) :
    (⟨first, one⟩ : (kind : Kind) × Handle kind) = ⟨second, other⟩ := by
  cases first <;> cases second <;> cases h <;> rfl

inductive Entry.Turns {kind : Kind} (entry : Entry) (name : String) (before after : Handle kind) :
    Prop
  | spared (spares : entry.Spares name) (same : after = before) : Turns entry name before after
  | fetched (response : Http.Response) (fetches : entry.Fetches name response)
      (valid : (Headers.ofFields response.fields).validate kind = .ok ())
      (kept : after.cached = some (.ofFields response.fields)) : Turns entry name before after
  | dropped (dropped : after.cached = none) : Turns entry name before after

section

variable {kind : Kind} {handle after : Handle kind} {name : String} {sends : Sends}

theorem isFetch_of_written {message : Http.Request}
    (written : handle.fetch.written handle.site.endpoint = .ok message) :
    IsFetch message.method := by
  rw [Request.method_of_written written]
  exact method_fetch handle

private theorem turns_headers {result : Except Error Headers}
    (looked : LookedUp handle result sends after) :
    Entry.Turns ⟨.headers name, result.map .headers, sends⟩ name handle after := by
  cases looked with
  | held => exact .spared ⟨nofun, nofun⟩ rfl
  | unwritten => exact .spared ⟨nofun, nofun⟩ rfl
  | failed => exact .spared ⟨nofun, nofun⟩ rfl
  | fetched empty written status valid =>
      exact .fetched _ (.headers (isFetch_of_written written)) valid rfl

private theorem not_found_of_error (error : Error) :
    foundBy (.error error) = .ok false ∨ foundBy (.error error) = .error error := by
  cases h : error.isNotFound <;> simp [foundBy, h]

private theorem spares_unfound (error : Error) (sends : Sends) :
    Entry.Spares ⟨.exists? name, (foundBy (.error error)).map .found, sends⟩ name := by
  rcases not_found_of_error error with h | h
  · rw [h]
    exact ⟨nofun, nofun⟩
  · rw [h]
    exact ⟨nofun, nofun⟩

private theorem turns_exists? {result : Except Error Headers}
    (looked : LookedUp handle result sends after) :
    Entry.Turns ⟨.exists? name, (foundBy result).map .found, sends⟩ name handle after := by
  cases looked with
  | held => exact .spared ⟨nofun, nofun⟩ rfl
  | unwritten => exact .spared (spares_unfound _ _) rfl
  | failed => exact .spared (spares_unfound _ _) rfl
  | fetched empty written status valid =>
      exact .fetched _ (.exists? (isFetch_of_written written)) valid rfl

private theorem turns_changed {call : HandleCall} {method : Http.Method}
    {expected : List Http.Status}
    {result : Except Error Unit} (changes : call.Changes name kind method expected)
    (changed : Changed handle method expected result sends after) :
    Entry.Turns ⟨call, result.map fun _ => .done, sends⟩ name handle after := by
  cases changed with
  | failed => cases changes <;> exact .spared ⟨nofun, nofun⟩ rfl
  | done => exact .dropped rfl

private theorem turns_ensured {container reached : Container} {result : Except Error Unit}
    (ensured : Container.Ensured container result sends reached) :
    Entry.Turns ⟨.ensureExists name, result.map fun _ => .done, sends⟩ name container reached := by
  cases ensured with
  | found looked =>
      cases looked with
      | held =>
          refine .spared ⟨?_, nofun⟩ rfl
          intro spoils
          cases spoils with
          | ensureExists sent => exact List.not_mem_nil sent
      | fetched empty written status valid =>
          exact .fetched _ (.ensureExists (isFetch_of_written written)) valid rfl
  | failed => exact .spared ⟨nofun, nofun⟩ rfl
  | created => exact .dropped rfl

private theorem turns_uploaded {object reached : Object} {body : Body} {options : Options}
    {result : Except Error Unit} (stored : Stored object result sends reached) :
    Entry.Turns ⟨.upload name body options, result.map fun _ => .done, sends⟩ name object
      reached := by
  cases stored with
  | @failed error _ reported =>
      refine .spared ⟨?_, nofun⟩ rfl
      intro spoils
      cases spoils with
      | mismatch found =>
          obtain ⟨sent, mem, same⟩ := reported _ _ rfl
          exact found sent mem same
  | stored => exact .dropped rfl

private theorem turns_downloaded {object reached : Object} {options : Options}
    {result : Except Error Download} (downloaded : Downloaded object result sends reached) :
    Entry.Turns ⟨.download name options, result.map .content, sends⟩ name object reached := by
  cases downloaded with
  | failed => exact .spared ⟨nofun, nofun⟩ rfl
  | fetched sent status valid => exact .fetched _ (.download sent) valid rfl

private theorem turns_copied {source : String} {options : Options} {object reached : Object}
    {result : Except Error Unit} (copied : Copied object result sends reached) :
    Entry.Turns ⟨.copy source name options, result.map fun _ => .done, sends⟩ name object
      reached := by
  cases copied with
  | failed => exact .spared ⟨nofun, nofun⟩ rfl
  | done => exact .dropped rfl

section

variable {target : String} {distinct : name ≠ target} {options deleteOptions : Options}
  {object other left reached : Object} {result : Except Error Unit}

private theorem spares_unmoved (error : Error) (sends : Sends) :
    Entry.Spares ⟨.move name target distinct options deleteOptions, .error error, sends⟩ name := by
  refine ⟨?_, nofun⟩
  intro spoils
  cases spoils with
  | moveOnto => exact distinct rfl

private theorem turns_moved (moved : Moved object other result sends left reached) :
    Entry.Turns ⟨.move name target distinct options deleteOptions, result.map fun _ => .done,
      sends⟩ name object left := by
  cases moved with
  | uncopied => exact .spared (spares_unmoved _ _) rfl
  | undeleted => exact .spared (spares_unmoved _ _) rfl
  | moved => exact .dropped rfl

private theorem turns_movedOnto (moved : Moved object other result sends left reached) :
    Entry.Turns ⟨.move name target distinct options deleteOptions, result.map fun _ => .done,
      sends⟩ target other reached := by
  cases moved with
  | uncopied undone =>
      refine .spared ⟨?_, nofun⟩ rfl
      intro spoils
      cases spoils with
      | moveOnto copied => exact undone copied
  | undeleted => exact .dropped rfl
  | moved => exact .dropped rfl

end

end

section

variable {client after : Client} {entry : Entry} {name : String}

theorem HandleCall.touched_of_changes {call : HandleCall} {kind : Kind} {method : Http.Method}
    {expected : List Http.Status} (changes : call.Changes name kind method expected) :
    call.touched = [name] := by
  cases changes <;> rfl

theorem Happens.get?_of_not_mem (happens : Happens client entry after)
    (h : name ∉ entry.call.touched) : after.get? name = client.get? name := by
  cases happens with
  | missing => rfl
  | changed changes =>
      rw [HandleCall.touched_of_changes changes] at h
      rw [Client.get?_put, if_neg (List.ne_of_not_mem_cons h)]
  | moved =>
      rw [Client.get?_put, if_neg (List.ne_of_not_mem_cons h), Client.get?_put,
        if_neg (List.ne_of_not_mem_cons (List.not_mem_of_not_mem_cons h))]
  | _ => rw [Client.get?_put, if_neg (List.ne_of_not_mem_cons h)]

private theorem turns_put {other : String} {kind first : Kind} {handle last : Handle kind}
    {reached : Handle first} (held : client.get? other = some (.ofHandle handle))
    (turns : entry.Turns other handle last) (touched : entry.call.touched = [other])
    (h : (client.put other (.ofHandle last)).get? name = some (.ofHandle reached)) :
    ∃ before : Handle first, client.get? name = some (.ofHandle before) ∧
      entry.Turns name before reached := by
  rw [Client.get?_put] at h
  split at h
  · next same =>
      cases Held.eq_of_ofHandle last reached (Option.some.inj h)
      rw [same]
      exact ⟨handle, held, turns⟩
  · next distinct =>
      refine ⟨reached, h, .spared (Entry.spares_of_not_mem ?_) rfl⟩
      rw [touched, List.mem_singleton]
      exact distinct

private theorem spares_missing {call : HandleCall} {fault : RequestFault} :
    Entry.Spares ⟨call, .error (.invalidRequest fault), []⟩ name := by
  constructor
  · intro spoils
    cases spoils with
    | moveOnto copied => exact not_isCopied_nil copied
  · intro response fetches
    cases fetches

theorem Happens.exists_turns {kind : Kind} {reached : Handle kind}
    (happens : Happens client entry after) (h : after.get? name = some (.ofHandle reached)) :
    ∃ before : Handle kind, client.get? name = some (.ofHandle before) ∧
      entry.Turns name before reached := by
  cases happens with
  | missing => exact ⟨reached, h, .spared spares_missing rfl⟩
  | headers held looked => exact turns_put held (turns_headers looked) rfl h
  | exists? held looked => exact turns_put held (turns_exists? looked) rfl h
  | changed changes held changed =>
      exact turns_put held (turns_changed changes changed)
        (HandleCall.touched_of_changes changes) h
  | ensured held ensured => exact turns_put held (turns_ensured ensured) rfl h
  | uploaded held stored => exact turns_put held (turns_uploaded stored) rfl h
  | downloaded held downloaded => exact turns_put held (turns_downloaded downloaded) rfl h
  | copied held copied => exact turns_put held (turns_copied copied) rfl h
  | invalidated held => exact turns_put held (.dropped rfl) rfl h
  | @moved source target distinct _ _ object other left last _ _ held heldOther moved =>
      rw [Client.get?_put] at h
      split at h
      · next same =>
          cases Held.eq_of_ofHandle left reached (Option.some.inj h)
          rw [same]
          exact ⟨object, held, turns_moved moved⟩
      · next notSource =>
          rw [Client.get?_put] at h
          split at h
          · next same =>
              cases Held.eq_of_ofHandle last reached (Option.some.inj h)
              rw [same]
              exact ⟨other, heldOther, turns_movedOnto moved⟩
          · next notTarget =>
              refine ⟨reached, h, .spared (Entry.spares_of_not_mem ?_) rfl⟩
              simp [HandleCall.touched, notSource, notTarget]

private theorem looked_of_notFound {kind : Kind} {handle reached : Handle kind} {sends : Sends}
    {result : Except Error Headers} {error : Error} (looked : LookedUp handle result sends reached)
    (h : (foundBy result).map Answer.found = .error error) : reached = handle := by
  cases result with
  | ok => exact nomatch h
  | error => exact Container.eq_of_lookedUp_error looked

theorem Happens.get?_of_failed (happens : Happens client entry after) (reads : entry.call.Reads)
    {error : Error} (failed : entry.result = .error error) (name : String) :
    after.get? name = client.get? name := by
  cases happens with
  | missing => rfl
  | headers held looked =>
      cases looked with
      | held => exact nomatch failed
      | unwritten => exact Client.get?_put_same held name
      | failed => exact Client.get?_put_same held name
      | fetched => exact nomatch failed
  | exists? held looked =>
      rw [looked_of_notFound looked failed]
      exact Client.get?_put_same held name
  | downloaded held downloaded =>
      cases downloaded with
      | failed => exact Client.get?_put_same held name
      | fetched => exact nomatch failed
  | changed changes => cases changes <;> exact reads.elim
  | _ => exact reads.elim

private theorem accepted_of_fetch {kind : Kind} {method : Http.Method} (h : IsFetch method) :
    Handle.accepted kind method = fetchStatuses kind := by
  rcases h with rfl | rfl <;> rfl

private theorem accepted_of_changes {call : HandleCall} {kind : Kind} {method : Http.Method}
    {expected : List Http.Status} (changes : call.Changes name kind method expected) :
    Handle.accepted kind method = expected := by
  cases changes <;> rfl

theorem Entry.Unaccepted.elim (unaccepted : entry.Unaccepted client) {kind : Kind}
    (handle : Handle kind) (held : client.get? name = some (.ofHandle handle))
    (touched : name ∈ entry.call.touched) {message : Http.Request} {response : Http.Response}
    {pulled : Nat} (sent : (message, ⟨.ok response, pulled⟩) ∈ entry.sends)
    (status : response.status ∈ Handle.accepted kind message.method) : False :=
  unaccepted _ sent response rfl name touched handle held status

private theorem Entry.Unaccepted.not_copied (unaccepted : entry.Unaccepted client) {object : Object}
    (held : client.get? name = some (.object object)) (touched : name ∈ entry.call.touched) :
    ¬IsCopied entry.sends := by
  rintro ⟨message, response, pulled, rest, hsends, method, status, -⟩
  have sent : (message, ⟨.ok response, pulled⟩) ∈ entry.sends := by
    rw [hsends]
    exact List.mem_cons_self
  apply unaccepted.elim object held touched sent
  rw [method, status]
  exact List.mem_singleton.mpr rfl

theorem Happens.get?_of_unaccepted (happens : Happens client entry after)
    (mutates : entry.call.Mutates) (unaccepted : entry.Unaccepted client) (name : String) :
    after.get? name = client.get? name := by
  cases happens with
  | missing => rfl
  | headers => exact mutates.elim
  | exists? => exact mutates.elim
  | downloaded => exact mutates.elim
  | invalidated => exact mutates.elim
  | @changed call on kind method expected handle after result sends changes held changed =>
      have touched : on ∈ call.touched := by
        rw [HandleCall.touched_of_changes changes]
        exact List.mem_singleton.mpr rfl
      cases changed with
      | failed => exact Client.get?_put_same held name
      | done sent status =>
          refine (unaccepted.elim _ held touched (List.mem_singleton.mpr rfl) ?_).elim
          rw [sent, accepted_of_changes changes]
          exact status
  | @ensured on container after result sends held ensured =>
      have touched : on ∈ (HandleCall.ensureExists on).touched := List.mem_singleton.mpr rfl
      cases ensured with
      | failed => exact Client.get?_put_same held name
      | found looked =>
          cases looked with
          | held => exact Client.get?_put_same held name
          | fetched empty written status =>
              refine (unaccepted.elim container held touched
                (List.mem_singleton.mpr rfl) ?_).elim
              rw [accepted_of_fetch (isFetch_of_written written)]
              exact status
      | created sent status =>
          refine (unaccepted.elim container held touched
            (List.mem_append_right _ (List.mem_singleton.mpr rfl)) ?_).elim
          rw [sent]
          exact status
  | @uploaded on body options object after result sends held stored =>
      have touched : on ∈ (HandleCall.upload on body options).touched := List.mem_singleton.mpr rfl
      cases stored with
      | failed => exact Client.get?_put_same held name
      | stored sent status =>
          refine (unaccepted.elim object held touched
            (List.mem_singleton.mpr rfl) ?_).elim
          rw [sent, status]
          exact List.mem_singleton.mpr rfl
  | copied held copied =>
      cases copied with
      | failed => exact Client.get?_put_same held name
      | done copied =>
          exact absurd copied (unaccepted.not_copied held (List.mem_singleton.mpr rfl))
  | moved held heldOther moved =>
      have uncopied := unaccepted.not_copied held List.mem_cons_self
      cases moved with
      | uncopied =>
          rw [Client.get?_put_same (by rwa [Client.get?_put_same heldOther])]
          exact Client.get?_put_same heldOther name
      | undeleted copied => exact absurd copied uncopied
      | moved copied => exact absurd copied uncopied

end

/-! ## Headers that are kept are given again -/

section

variable {client after : Client} {entry : Entry} {name : String} {kind : Kind}
  {handle : Handle kind}

theorem Happens.of_headers (happens : Happens client entry after)
    (call : entry.call = .headers name) (held : client.get? name = some (.ofHandle handle)) :
    ∃ result after, entry.result = result.map .headers ∧
      LookedUp handle result entry.sends after := by
  cases happens with
  | missing absent => exact absurd held (absent name call handle)
  | headers holds looked =>
      cases call
      cases Held.eq_of_ofHandle _ handle (Option.some.inj (holds.symm.trans held))
      exact ⟨_, _, rfl, looked⟩
  | changed changes =>
      cases call
      exact nomatch changes
  | _ => exact nomatch call

theorem Happens.result_eq_of_cached (happens : Happens client entry after)
    (call : entry.call = .headers name)
    (held : client.get? name = some (.ofHandle handle)) {headers : Headers}
    (cached : handle.cached = some headers) :
    entry.result = .ok (.headers headers) ∧ entry.sends = [] := by
  obtain ⟨result, after, same, looked⟩ := happens.of_headers call held
  rw [same]
  generalize entry.sends = sends at looked
  cases looked with
  | held again =>
      cases cached.symm.trans again
      exact ⟨rfl, rfl⟩
  | unwritten empty => exact nomatch cached.symm.trans empty
  | failed empty => exact nomatch cached.symm.trans empty
  | fetched empty => exact nomatch cached.symm.trans empty

theorem Happens.fetchesAnew_of_empty (happens : Happens client entry after)
    (call : entry.call = .headers name)
    (held : client.get? name = some (.ofHandle handle)) (empty : handle.cached = none) :
    entry.FetchesAnew handle := by
  obtain ⟨result, after, same, looked⟩ := happens.of_headers call held
  obtain ⟨call, outcome, sends⟩ := entry
  cases same
  cases looked with
  | held cached => exact nomatch empty.symm.trans cached
  | unwritten _ unwritten => exact .unwritten unwritten
  | failed _ written invalid => exact .failed written invalid
  | fetched _ written => exact .fetched written

end

end ObjectStorage
