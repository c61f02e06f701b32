import ObjectStorage.Account
import ObjectStorage.Proofs.Bulk.Deletion

/-!
# What the lines of a bulk deletion denote

A line stands for the handle that it was made from, below the endpoint of that handle.  The account
that sends it is only known to have the same name: where it is found at another endpoint, the line
denotes something else there.
-/

namespace ObjectStorage.Account

open Bulk

variable {σ : Type}

/-- Where a line of a bulk deletion leads below an endpoint. -/
def resolve (endpoint : Url) (line : String) : Except Error Url :=
  match Url.parse (Request.base endpoint ++ line) with
  | .ok url => .ok url
  | .error fault => .error (.invalidRequest (.notUrl (Request.base endpoint ++ line) fault))

private theorem resolve_congr {first second : Url} (h : Request.base first = Request.base second)
    (line : String) : resolve first line = resolve second line := by
  unfold resolve
  rw [h]

private theorem url_of_path {request : Request} {endpoint : Url} {line : String}
    (path : request.path = .ok line) (bare : request.options = .none) :
    request.url endpoint = resolve endpoint line := by
  have nothing : Options.none.values.isEmpty = true := rfl
  unfold Request.url Request.address resolve
  rw [path, bare]
  simp only [bind, Except.bind, nothing, if_true]
  cases Url.parse (Request.base endpoint ++ line) <;> rfl

structure Names {kind : Kind} (handle : Handle kind) (doomed : Doomed) : Prop where
  account : handle.site.account = doomed.account
  container : handle.place.container? = some doomed.container
  object : handle.place.object? = doomed.object

private theorem names_ofObject (object : Object) : Names object (Doomed.ofObject object) := by
  obtain ⟨site, ⟨⟩, cached⟩ := object
  exact ⟨rfl, rfl, rfl⟩

private theorem names_ofContainer (container : Container) :
    Names container (Doomed.ofContainer container) := by
  obtain ⟨site, ⟨⟩, cached⟩ := container
  exact ⟨rfl, rfl, rfl⟩

theorem Names.url_eq {kind : Kind} {handle : Handle kind} {doomed : Doomed}
    (names : Names handle doomed)
    (checked : Address.check doomed.container doomed.object = .ok ()) :
    handle.url = resolve handle.site.endpoint doomed.line := by
  refine url_of_path ?_ rfl
  simp only [Request.path, Handle.request, names.container, names.object]
  rw [checked]
  rfl

/-- Of which handle of the account's name a line speaks, and where that leads. -/
structure Denotes {kind : Kind} (account : Account) (handle : Handle kind) (line : String) :
    Prop where
  name : handle.site.account = account.site.account
  own : resolve handle.site.endpoint line = handle.url
  same : Request.base handle.site.endpoint = Request.base account.site.endpoint →
    resolve account.site.endpoint line = handle.url

theorem Names.denotes_line {kind : Kind} {account : Account} {handle : Handle kind}
    {doomed : Doomed} (names : Names handle doomed) (isOf : doomed.IsOf account.site.account) :
    Denotes account handle doomed.line where
  name := names.account.trans isOf.1
  own := (names.url_eq isOf.2).symm
  same base := (resolve_congr base.symm _).trans (names.url_eq isOf.2).symm

theorem denotes_of_mem {account : Account} {objects : List Object} {containers : List Container}
    {doomed : Doomed} (isOf : doomed.IsOf account.site.account)
    (h : doomed ∈ allDoomed objects containers) :
    (∃ object ∈ objects, Denotes account object doomed.line) ∨
      ∃ container ∈ containers, Denotes account container doomed.line := by
  rcases List.mem_append.mp h with h | h
  · obtain ⟨object, hobject, rfl⟩ := List.mem_map.mp h
    exact .inl ⟨object, hobject, (names_ofObject object).denotes_line isOf⟩
  · obtain ⟨container, hcontainer, rfl⟩ := List.mem_map.mp h
    exact .inr ⟨container, hcontainer, (names_ofContainer container).denotes_line isOf⟩

/--
Each line that is sent denotes a handle of an account of the same name, by the handle's own endpoint
and by the account's if they agree; a handle of an account of another name, or one that can have no
URL, is refused before anything is sent.
-/
theorem lines_denote (transport : Transport σ) (account : Account) (objects : List Object)
    (containers : List Container) (options : Options) (events : List Observation) (state : σ) :
    ∃ result new last,
      (bulkDelete transport.observed account objects containers options).attempt (events, state) =
        (result, (events ++ new, last)) ∧
      (∀ send ∈ Observation.sends new, ∃ lines : List String,
        send.1.body = .bytes (Utf8.ofText (String.join (lines.map (· ++ "\n")))) ∧
        ∀ line ∈ lines, '\n' ∉ line.toList ∧
          ((∃ object ∈ objects, Denotes account object line) ∨
            ∃ container ∈ containers, Denotes account container line)) ∧
      ((∃ doomed ∈ allDoomed objects containers, ¬doomed.IsOf account.site.account) →
        (∃ fault, result = .error (.invalidRequest fault)) ∧ Observation.sends new = []) := by
  obtain ⟨result, new, last, run, cases⟩ :=
    bulkDelete_cases transport account objects containers options events state
  refine ⟨result, new, last, run, ?_⟩
  rcases cases with ⟨fault, -, refused, nothing⟩ | ⟨proper, sent⟩
  · rw [nothing]
    exact ⟨(fun send h => nomatch h), fun _ => ⟨⟨fault, refused⟩, rfl⟩⟩
  refine ⟨?_, fun ⟨doomed, h, foreign⟩ => absurd (proper doomed h) foreign⟩
  rcases sent with ⟨error, -, -, -, nothing⟩ | ⟨lines, outcomes, deleted⟩
  · rw [nothing]
    exact fun send h => nomatch h
  intro send hsend
  obtain ⟨batch, hbatch, isDeletion⟩ := exists_of_forall₂ deleted.requests hsend
  refine ⟨batch, isDeletion.body, fun line hline => ⟨isDeletion.lines line hline, ?_⟩⟩
  have among := List.mem_flatten.mpr ⟨batch, hbatch, hline⟩
  rw [deleted.inOrder] at among
  obtain ⟨doomed, hdoomed, rfl⟩ := List.mem_map.mp among
  have h := List.mem_of_mem_take hdoomed
  exact denotes_of_mem (proper doomed h) h

/-- An account whose name is no text when it is decoded, so that it is taken as it stands. -/
def rawSite : Site :=
  ⟨⟨"http", "", "", some "swift.test", none, .segments ["v1", "%FF"], none, none, false⟩, "%FF",
    .standard⟩

/-- The account of the same name beside it, whose endpoint escapes the percent sign. -/
def escapedSite : Site :=
  ⟨⟨"http", "", "", some "swift.test", none, .segments ["v1", "%25FF"], none, none, false⟩, "%FF",
    .standard⟩

private theorem switch_rawSite : rawSite.switch rawSite.account = .ok escapedSite := by
  decide +kernel

/-- Through an account, what lies in another one of the same name is deleted in its place. -/
theorem not_denoted_below_account :
    ¬∀ (site other : Site) (container object : String), site.switch site.account = .ok other →
      ∀ send ∈ Observation.sends ((bulkDelete deletingServer.observed (Handle.fresh site .account)
          [Handle.fresh other (.object container object)] [] .none).attempt ([], ())).2.1,
      ∀ line, send.1.body = .bytes (Utf8.ofText (line ++ "\n")) →
        resolve site.endpoint line =
          (Handle.fresh other (.object container object) : Object).url := by
  intro denoted
  have bodies : (Observation.sends ((bulkDelete deletingServer.observed
      (Handle.fresh rawSite .account) [Handle.fresh escapedSite (.object "c" "o")] []
      .none).attempt ([], ())).2.1).map (fun send => send.1.body) =
        [.bytes (Utf8.ofText ("/c/o" ++ "\n"))] := by
    decide +kernel
  obtain ⟨send, sent, body⟩ := List.map_eq_singleton_iff.mp bodies
  have claimed := denoted rawSite escapedSite "c" "o" switch_rawSite send (by simp [sent]) "/c/o"
    body
  have apart : resolve rawSite.endpoint "/c/o" ≠
      (Handle.fresh escapedSite (.object "c" "o") : Object).url := by
    decide +kernel
  exact apart claimed

end ObjectStorage.Account
