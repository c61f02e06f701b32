import ObjectStorage.Proofs.Cache.Steps
import ObjectStorage.Proofs.Runs

/-!
# Kept headers over runs

The headers that a handle keeps are those it was last given, and nothing has spoiled them since.
The invariant is stated against the log of all calls so far.
-/

namespace ObjectStorage

open Handle

variable {σ : Type}

/-- What every call keeps to, whatever the server answers. -/
structure Kept (client : Client) (entry : Entry) (after : Client) : Prop where
  held : ∀ {name : String} {kind : Kind} {handle : Handle kind} {headers : Headers},
    entry.call = .headers name → client.get? name = some (.ofHandle handle) →
    handle.cached = some headers → entry.result = .ok (.headers headers) ∧ entry.sends = []
  anew : ∀ {name : String} {kind : Kind} {handle : Handle kind},
    entry.call = .headers name → client.get? name = some (.ofHandle handle) →
    handle.cached = none → entry.FetchesAnew handle
  failed : entry.call.Reads → ∀ {error : Error}, entry.result = .error error →
    ∀ name, after.get? name = client.get? name
  unaccepted : entry.call.Mutates → entry.Unaccepted client →
    ∀ name, after.get? name = client.get? name
  others : ∀ name, name ∉ entry.call.touched → after.get? name = client.get? name

theorem Happens.kept_entry {client after : Client} {entry : Entry}
    (happens : Happens client entry after) : Kept client entry after where
  held call holds cached := happens.result_eq_of_cached call holds cached
  anew := happens.fetchesAnew_of_empty
  failed := happens.get?_of_failed
  unaccepted := happens.get?_of_unaccepted
  others _ := happens.get?_of_not_mem

/-! ## Runs -/

namespace HandleCall

/-- The call, with the entry that it makes in the log. -/
def entry (transport : Transport σ) (call : HandleCall) : StateM (Client × σ) Entry :=
  fun (client, state) =>
    let (result, (client, (events, state))) :=
      (call.perform transport.observed).attempt (client, ([], state))
    (⟨call, result, Observation.sends events⟩, (client, state))

def entries (transport : Transport σ) (calls : List HandleCall) :
    StateM (Client × σ) (List Entry) :=
  calls.mapM (entry transport)

theorem entry_happens (transport : Transport σ) (call : HandleCall) (state : Client × σ) :
    Happens state.1 (call.entry transport state).1 (call.entry transport state).2.1 := by
  obtain ⟨client, state⟩ := state
  obtain ⟨result, events, last, after, run, happens⟩ := does_call transport client state call
  unfold entry
  dsimp only
  rw [run]
  exact happens

end HandleCall

/-- A client whose handles keep no headers yet. -/
def Client.IsFresh (client : Client) : Prop :=
  ∀ (name : String) {kind : Kind} (handle : Handle kind),
    client.get? name = some (.ofHandle handle) → handle.cached = none

theorem Client.isFresh_empty : Client.empty.IsFresh := by
  intro name kind handle held
  exact nomatch (Dictionary.get?_empty name).symm.trans held

theorem Client.IsFresh.put_fresh {client : Client} (fresh : client.IsFresh) (name : String)
    {kind : Kind} (site : Site) (place : Place kind) :
    (client.put name (.ofHandle (Handle.fresh site place))).IsFresh := by
  intro other second handle held
  rw [Client.get?_put] at held
  split at held
  · cases Held.eq_of_ofHandle _ handle (Option.some.inj held)
    rfl
  · exact fresh other handle held

/-- The headers are those that were fetched last through the handle, and nothing spoiled them. -/
def LastFetched (log : List Entry) (name : String) (headers : Headers) : Prop :=
  ∃ before entry response rest, log = before ++ entry :: rest ∧ entry.Fetches name response ∧
    headers = .ofFields response.fields ∧ ∀ other ∈ rest, other.Spares name

/-- All headers that are kept are valid, and were fetched last. -/
def Sound (log : List Entry) (client : Client) : Prop :=
  ∀ (name : String) {kind : Kind} (handle : Handle kind) (headers : Headers),
    client.get? name = some (.ofHandle handle) → handle.cached = some headers →
    headers.validate kind = .ok () ∧ LastFetched log name headers

section

variable {client after : Client} {log : List Entry}

theorem LastFetched.append {name : String} {headers : Headers} {entry : Entry}
    (last : LastFetched log name headers) (spares : entry.Spares name) :
    LastFetched (log ++ [entry]) name headers := by
  obtain ⟨before, fetching, response, rest, rfl, fetches, hheaders, spared⟩ := last
  refine ⟨before, fetching, response, rest ++ [entry], by simp, fetches, hheaders, ?_⟩
  intro other hother
  rcases List.mem_append.mp hother with hrest | hentry
  · exact spared other hrest
  · rw [List.mem_singleton.mp hentry]
    exact spares

theorem Client.IsFresh.sound_nil (fresh : client.IsFresh) : Sound [] client := by
  intro name kind handle headers held cached
  rw [fresh name handle held] at cached
  exact nomatch cached

theorem Sound.append_entry (sound : Sound log client) {entry : Entry}
    (happens : Happens client entry after) : Sound (log ++ [entry]) after := by
  intro name kind handle headers held cached
  obtain ⟨before, heldBefore, turns⟩ := happens.exists_turns held
  cases turns with
  | spared spares same =>
      rw [same] at cached
      obtain ⟨valid, last⟩ := sound name before headers heldBefore cached
      exact ⟨valid, last.append spares⟩
  | fetched response fetches valid kept =>
      cases cached.symm.trans kept
      refine ⟨valid, log, entry, response, [], rfl, fetches, rfl, ?_⟩
      intro other hother
      exact absurd hother List.not_mem_nil
  | dropped dropped => exact nomatch cached.symm.trans dropped

theorem Sound.append_run {run : List Entry} (sound : Sound log client)
    (path : Path Happens client run after) : Sound (log ++ run) after := by
  induction path generalizing log with
  | refl => rwa [List.append_nil]
  | next happens _ ih =>
      have whole := ih (sound.append_entry happens)
      rwa [List.append_assoc] at whole

end

/--
After any calls on handles without headers, whatever the server answered: every headers kept are
valid and are those fetched last through their handle, and since then nothing has spoiled them.  The
next call gives what is kept and else fetches anew, and changes no handle that it is not about, nor
any if it reads and fails or if no change is accepted.
-/
theorem kept_headers (transport : Transport σ) {client : Client} (fresh : client.IsFresh)
    (calls : List HandleCall) (state : σ) :
    ∃ run after last,
      HandleCall.entries transport calls (client, state) = (run, (after, last)) ∧
      run.map Entry.call = calls ∧
      (∀ (name : String) {kind : Kind} (handle : Handle kind) (headers : Headers),
        after.get? name = some (.ofHandle handle) → handle.cached = some headers →
        headers.validate kind = .ok () ∧ LastFetched run name headers) ∧
      ∀ call : HandleCall, ∃ entry next final,
        call.entry transport (after, last) = (entry, (next, final)) ∧ entry.call = call ∧
        Kept after entry next := by
  have path : Path Happens client (HandleCall.entries transport calls (client, state)).1
      (HandleCall.entries transport calls (client, state)).2.1 :=
    path_of_views (HandleCall.entry_happens transport) calls (client, state)
  have same : (HandleCall.entries transport calls (client, state)).1.map Entry.call = calls :=
    calls_of_turns (fun _ _ => rfl) calls (client, state)
  generalize HandleCall.entries transport calls (client, state) = outcome at path same ⊢
  obtain ⟨run, after, last⟩ := outcome
  refine ⟨run, after, last, rfl, same, fresh.sound_nil.append_run path, ?_⟩
  intro call
  exact ⟨_, _, _, rfl, rfl, (call.entry_happens transport (after, last)).kept_entry⟩

/-- A server on which every change is done, and that gives the number of changes so far. -/
def countingServer : Transport Nat where
  send message := fun count =>
    if message.method = .head then
      (⟨.ok ⟨.noContent, Http.Fields.none.replace "x-container-object-count"
        (Utf8.ofText (Integer.writeNat count)), .empty⟩, 0⟩, count)
    else (⟨.ok ⟨.noContent, .none, .empty⟩, 0⟩, count + 1)

def deskSite : Site :=
  ⟨⟨"http", "", "", some "swift.test", none, .segments ["v1", "AUTH_test"], none, none, false⟩,
    "AUTH_test", .standard⟩

def desk : Client :=
  Client.empty.put "box" (.container (Handle.fresh deskSite (.container "box")))

private theorem isFresh_desk : desk.IsFresh :=
  Client.isFresh_empty.put_fresh "box" deskSite (.container "box")

private theorem Client.get?_of_container {client : Client} {name : String} {container : Container}
    (h : (client.container name).toOption = some container) :
    client.get? name = some (.container container) := by
  rcases find_cases client .container name with ⟨part, held, found⟩ | ⟨fault, absent⟩
  · rw [Client.container, found] at h
    cases h
    exact held
  · rw [Client.container, absent] at h
    exact nomatch h

/-- After a change the headers are those of the second fetch. -/
theorem kept_headers_desk :
    desk.IsFresh ∧ ∃ run after last headers,
      HandleCall.entries countingServer
        [.headers "box", .update "box" .empty .none, .headers "box"] (desk, 7) =
          (run, (after, last)) ∧
      after.get? "box" = some (.container ⟨deskSite, .container "box", some headers⟩) ∧
      headers.toList = [("X-Container-Object-Count", "8")] ∧ LastFetched run "box" headers := by
  obtain ⟨run, after, last, hrun, -, kept, -⟩ := kept_headers countingServer isFresh_desk
    [.headers "box", .update "box" .empty .none, .headers "box"] 7
  have held : (after.container "box").toOption = some ⟨deskSite, .container "box",
      some (Headers.ofList [("X-Container-Object-Count", "8")])⟩ := by
    have run : after = (HandleCall.entries countingServer
        [.headers "box", .update "box" .empty .none, .headers "box"] (desk, 7)).2.1 := by
      rw [hrun]
    rw [run]
    decide +kernel
  have holds := Client.get?_of_container held
  refine ⟨isFresh_desk, run, after, last, _, hrun, holds, by decide +kernel, ?_⟩
  exact (kept "box" (⟨deskSite, .container "box", _⟩ : Container) _ holds rfl).2

end ObjectStorage
