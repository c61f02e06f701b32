import ObjectStorage.Proofs.Address.Siblings
import ObjectStorage.Proofs.Address.Target
import ObjectStorage.Proofs.Refusal.Operations

/-!
# Slashes at the end of an endpoint

An account is named by the last segment of its endpoint that is not empty, and its containers lie
below that segment, however many slashes stand at the end.  For other accounts and for the
description of the cluster only one of the slashes does not count.
-/

namespace ObjectStorage

/-! ## Empty segments -/

namespace Url

variable {front : List String}

theorem bare_of_filled (filled : ∀ s ∈ front, s ≠ "") (slashes : Nat) :
    bare (front ++ List.replicate slashes "") = front := by
  have empty : ∀ s ∈ List.replicate slashes "", decide (s = "") = true := by
    intro s hs
    simpa using List.eq_of_mem_replicate hs
  have kept : front.reverse.dropWhile (fun s => s = "") = front.reverse := by
    cases h : front.reverse with
    | nil => rfl
    | cons last rest =>
        have hlast : last ∈ front := by
          rw [← List.mem_reverse, h]
          exact List.mem_cons_self
        rw [List.dropWhile_cons_of_neg (by simpa using filled last hlast)]
  rw [bare, List.reverse_append, List.reverse_replicate, List.dropWhile_append_of_pos empty, kept,
    List.reverse_reverse]

private theorem bare_rooted (filled : ∀ s ∈ front, s ≠ "") : bare (rooted front) = front := by
  have alone := bare_of_filled filled 0
  rw [List.replicate_zero, List.append_nil] at alone
  by_cases h : front = []
  · rw [h]
    rfl
  · rw [rooted_of_ne_nil h, alone]

end Url

namespace Site

open Url

variable {endpoint : Url} {root : List String} {version account : String} {slashes : Nat}

/-! ## Segments by the number of slashes -/

/-- The segments before the one that switching puts into the path. -/
def frontOf (root : List String) (version account : String) : Nat → List String
  | 0 | 1 => root ++ [version]
  | slashes + 2 => root ++ [version, account] ++ List.replicate slashes ""

def clusterOf (root : List String) (version account : String) : Nat → List String
  | 0 | 1 => root
  | 2 => root ++ [version]
  | slashes + 3 => root ++ [version, account] ++ List.replicate slashes ""

def clusterUrl (endpoint : Url) (root : List String) (version account : String)
    (slashes : Nat) : Url :=
  { endpoint with
    path := .segments (rooted (clusterOf root version account slashes)), query := none }

/-- The segments below which the description of the cluster is looked for. -/
def rootOf (root : List String) (version account : String) : Nat → List String
  | 0 | 1 => root
  | 2 => root ++ [version]
  | _ + 3 => root ++ [version, account]

/-- The path of an endpoint: a root, the version of the protocol, the account, and slashes. -/
structure IsAccountPath (endpoint : Url) (root : List String) (version account : String)
    (slashes : Nat) : Prop where
  path : endpoint.path = .segments (root ++ [version, account] ++ List.replicate slashes "")
  rootFilled : ∀ s ∈ root, s ≠ ""
  versionFilled : version ≠ ""
  accountFilled : account ≠ ""

private theorem frontOf_ne_nil (root : List String) (version account : String) (slashes : Nat) :
    frontOf root version account slashes ≠ [] := by
  unfold frontOf
  split <;> simp

private theorem mem_frontOf (root : List String) (version account : String) (slashes : Nat) :
    version ∈ frontOf root version account slashes := by
  unfold frontOf
  split <;> simp

private theorem frontOf_eq (root : List String) (version account : String) (slashes : Nat) :
    ∃ last, frontOf root version account slashes =
      clusterOf root version account slashes ++ [last] := by
  match slashes with
  | 0 => exact ⟨version, rfl⟩
  | 1 => exact ⟨version, rfl⟩
  | 2 => exact ⟨account, by simp [frontOf, clusterOf]⟩
  | slashes + 3 => exact ⟨"", by simp [frontOf, clusterOf, List.replicate_succ']⟩

private theorem mem_clusterOf {s : String}
    (h : s ∈ rooted (clusterOf root version account slashes)) :
    s = "" ∨ s ∈ root ++ [version, account] := by
  unfold rooted at h
  split at h
  · exact .inl (List.mem_singleton.mp h)
  · unfold clusterOf at h
    split at h
    all_goals
      simp only [List.mem_append, List.mem_cons, List.mem_replicate, List.not_mem_nil] at h ⊢
      tauto

namespace IsAccountPath

variable (path : IsAccountPath endpoint root version account slashes)

include path

theorem segments_ne_empty : ∀ s ∈ root ++ [version, account], s ≠ "" := by
  intro s hs
  simp only [List.mem_append, List.mem_cons, List.not_mem_nil, or_false] at hs
  rcases hs with hs | rfl | rfl
  · exact path.rootFilled s hs
  · exact path.versionFilled
  · exact path.accountFilled

theorem leavesSegments : LeavesSegments endpoint (frontOf root version account slashes) := by
  have segments := path.path
  match slashes with
  | 0 =>
      have whole : endpoint.path =
          .segments (frontOf root version account 0 ++ account :: []) := by
        simp [segments, frontOf]
      exact leavesSegments_of_last whole path.accountFilled (.inl rfl)
  | 1 =>
      have whole : endpoint.path =
          .segments (frontOf root version account 1 ++ account :: [""]) := by
        simp [segments, frontOf]
      exact leavesSegments_of_last whole path.accountFilled (.inr rfl)
  | slashes + 2 =>
      -- Each of the two steps takes away a slash, and the account is not reached.
      have whole : endpoint.path =
          .segments ((frontOf root version account (slashes + 2) ++ [""]) ++ [""]) := by
        simp [segments, frontOf, List.replicate_succ']
      refine ⟨by rw [cannotBeBase, segments], ?_⟩
      rw [popEmptySegment_of_empty whole, rooted_of_ne_nil (by simp), popSegment_of_last rfl]

theorem clusterRoot_eq :
    Site.clusterRoot endpoint = .ok (clusterUrl endpoint root version account slashes) := by
  obtain ⟨last, shape⟩ := frontOf_eq root version account slashes
  have leaves := path.leavesSegments
  rw [Site.clusterRoot, leaves.based, leaves.popped, rooted_of_ne_nil (frontOf_ne_nil _ _ _ _),
    shape, popSegment_of_last rfl]
  rfl

theorem bare_clusterOf :
    bare (rooted (clusterOf root version account slashes)) =
      rootOf root version account slashes := by
  have filled := path.segments_ne_empty
  match slashes with
  | 0 => exact bare_rooted path.rootFilled
  | 1 => exact bare_rooted path.rootFilled
  | 2 => exact bare_rooted fun s hs => filled s (by
      rw [List.append_cons, List.mem_append]
      exact .inl hs)
  | slashes + 3 =>
      rw [clusterOf, rooted_of_ne_nil (by simp)]
      exact bare_of_filled filled slashes

private theorem bare_path : bare (root ++ [version, account] ++ List.replicate slashes "") =
    root ++ [version, account] := bare_of_filled path.segments_ne_empty slashes

theorem ofEndpoint_eq (settings : Settings) : Site.ofEndpoint endpoint settings =
    .ok ⟨endpoint, (Percent.decode? account).getD account, settings⟩ := by
  have whole : endpoint.path =
      .segments ((root ++ [version]) ++ account :: List.replicate slashes "") := by
    rw [path.path]
    simp
  have empty (s) (hs : s ∈ List.replicate slashes "") : s = "" := List.eq_of_mem_replicate hs
  exact ofEndpoint_of_last whole path.accountFilled empty settings

/-! ## Requests -/

section

variable {host : String} {segments : List String} {request : Request}

theorem isWeb_cluster (web : endpoint.IsWeb host segments) :
    (clusterUrl endpoint root version account slashes).IsWeb host
      (rooted (clusterOf root version account slashes)) := by
  have segments := Url.Path.segments.inj (web.hasPath.symm.trans path.path)
  have written (s) (hs : s ∈ root ++ [version, account]) : IsSegment s := by
    refine web.isSegment s ?_
    rw [segments]
    exact List.mem_append_left _ hs
  refine (web.withPath fun s hs => ?_).withQuery fun text h => nomatch h
  rcases mem_clusterOf hs with rfl | hs
  · exact isSegment_empty
  · exact written s hs

private theorem path_of_url (web : endpoint.IsWeb host segments) (noQuery : endpoint.query = none)
    (noFragment : endpoint.fragment = none) {url : Url} (h : request.url endpoint = .ok url) :
    url.path = .segments
      (root ++ [version, account] ++ Address.below request.container request.object) := by
  obtain ⟨-, newHost, -, rfl⟩ := Request.located_of_url web noQuery noFragment h
  have segments := Url.Path.segments.inj (web.hasPath.symm.trans path.path)
  rw [Request.located, segments, path.bare_path, rooted_of_ne_nil (by simp)]

end

end IsAccountPath

end Site

namespace Account

open Url

/-! ## Names -/

/-- Whether the character is a letter, a digit or an underscore, or beyond ASCII. -/
def isOrdinary (c : Char) : Bool := c.isAlphanum || c = '_' || 128 ≤ c.toNat

private theorem ne_of_isOrdinary {c d : Char} (h : isOrdinary c = true)
    (other : isOrdinary d = false) : c ≠ d := by
  rintro rfl
  rw [h] at other
  exact nomatch other

private theorem isWordOrMark_of_isOrdinary {c : Char} (h : isOrdinary c = true)
    (ascii : c.toNat < 128) : isWordOrMark c = true := by
  simp only [isOrdinary, Bool.or_eq_true, decide_eq_true_eq] at h
  rcases h with (h | rfl) | h
  · simp [isWordOrMark, h]
  · decide
  · omega

/-! ## The description of the cluster -/

variable {σ : Type}

theorem capabilities_executed (transport : Transport σ) (account : Account) {root : Url}
    (rooted : Site.clusterRoot account.site.endpoint = .ok root) (state : σ) :
    ∃ result answer new last,
      (capabilities transport.observed account).attempt ([], state) = (result, (new, last)) ∧
      Request.Executed infoRequest root answer (Observation.sends new) ∧
      ∀ error, answer = .error error → result = .error error := by
  obtain ⟨answer, new, last, run, executed⟩ :=
    Request.execute_executed transport infoRequest root [] state
  rw [List.nil_append, infoRequest] at run
  rw [capabilities, Remote.attempt_bind, Remote.attempt_ofExcept, rooted]
  simp only [Except.mapError]
  rw [Remote.attempt_bind, run]
  cases answer with
  | error error =>
      refine ⟨_, _, new, last, rfl, executed, ?_⟩
      rintro _ ⟨⟩
      rfl
  | ok response =>
      simp only
      rw [Remote.attempt_bind, Remote.attempt_ofExcept]
      cases response.body.read with
      | error error => exact ⟨_, _, new, last, rfl, executed, fun _ h => nomatch h⟩
      | ok content =>
          simp only
          cases Capabilities.parse? content with
          | none => exact ⟨_, _, new, last, rfl, executed, fun _ h => nomatch h⟩
          | some limits => exact ⟨_, _, new, last, rfl, executed, fun _ h => nomatch h⟩

/-! ## All together -/

private theorem info_accepted : ¬Address.IsRefused infoRequest.container infoRequest.object := by
  refine Address.not_isRefused_container ?_
  unfold Address.IsRefusedContainer
  decide

private theorem below_info : Address.below (some "info") none = ["info"] := by decide +kernel

section

open Site

variable {endpoint : Url} {root : List String} {version account host : String} {slashes : Nat}
  {segments : List String} (path : IsAccountPath endpoint root version account slashes)
  (web : endpoint.IsWeb host segments)

include path web

private theorem info_on_wire {message : Http.Request}
    (h : infoRequest.written (clusterUrl endpoint root version account slashes) = .ok message)
    (noFragment : endpoint.fragment = none) :
    message.method = .get ∧
      Text.splitString '/' message.uri.path =
        "" :: (rootOf root version account slashes ++ ["info"]) ∧
      message.uri.query = none := by
  have cluster := path.isWeb_cluster web
  obtain ⟨url, hurl, hmessage⟩ := ok_of_bind h
  refine ⟨Request.method_of_written h, ?_, ?_⟩
  · rw [Request.split_path_of_written cluster rfl noFragment h, path.bare_clusterOf]
    exact congrArg _ (Address.rooted_below _ "info" none)
  · obtain ⟨-, newHost, -, rfl⟩ := Request.located_of_url cluster rfl noFragment hurl
    rw [Request.query_of_message hurl hmessage]
    rfl

private theorem info_unwritten {error : Error} (read : Url.Host.special host.toList = .ok host)
    (noQuery : endpoint.query = none) (noFragment : endpoint.fragment = none)
    (h : infoRequest.written (clusterUrl endpoint root version account slashes) =
      .error error) :
    Request.target { endpoint with
      path := .segments (rootOf root version account slashes ++ ["info"]) } = .error error := by
  have cluster := path.isWeb_cluster web
  have located : infoRequest.url (clusterUrl endpoint root version account slashes) =
      .ok { endpoint with
        path := .segments (rootOf root version account slashes ++ ["info"]) } := by
    rcases Request.url_cases cluster read rfl noFragment infoRequest with ⟨-, refused⟩ | ⟨-, url⟩
    · exact absurd refused info_accepted
    · have segments : rooted (bare (rooted (clusterOf root version account slashes)) ++
          Address.below (some "info") none) =
            rootOf root version account slashes ++ ["info"] := by
        rw [path.bare_clusterOf, Address.rooted_below, below_info]
      rw [url, Request.located]
      simp only [infoRequest, segments, clusterUrl, noQuery]
      rfl
  rcases error_of_bind h with unlocated | ⟨url, found, unsaid⟩
  · rw [located] at unlocated
    cases unlocated
  · rw [located, Except.ok.injEq] at found
    rw [found]
    rcases error_of_bind unsaid with target | ⟨uri, -, fields⟩
    · exact target
    · cases fields

theorem switch_of_isOrdinary {name : String} {settings : Settings} (notEmpty : name ≠ "")
    (ordinary : ∀ c ∈ name.toList, isOrdinary c = true) (own : String) :
    ∃ other, (ofSite ⟨endpoint, own, settings⟩).switch name = .ok other ∧
      (ofSite ⟨endpoint, own, settings⟩).IsBeside (frontOf root version account slashes) name
        other ∧
      ((∀ c ∈ name.toList, c.toNat < 128) → other.site.endpoint =
        { endpoint with
          path := .segments (frontOf root version account slashes ++ [name]) }) := by
  have leaves : LeavesSegments (ofSite ⟨endpoint, own, settings⟩).site.endpoint
      (frontOf root version account slashes) := path.leavesSegments
  have ne (d : Char) (other : isOrdinary d = false) : ∀ c ∈ name.toList, c ≠ d :=
    fun c hc => ne_of_isOrdinary (ordinary c hc) other
  have accepted : ¬(name = "" ∨ '/' ∈ name.toList) := by
    rintro (empty | slash)
    · exact notEmpty empty
    · exact ne '/' (by decide) _ slash rfl
  have reads : ReadsBack endpoint.scheme (frontOf root version account slashes) name := by
    refine ⟨?_, ?_, fun c hc => ?_, fun alone => ?_, fun file => absurd file web.not_file,
      fun file => absurd file web.not_file⟩
    · rintro rfl
      exact ne '.' (by decide) '.' (by decide) rfl
    · rintro rfl
      exact ne '.' (by decide) '.' (by decide) rfl
    · simp [isTabOrLineEnd, ne '\t' (by decide) c hc, ne '\n' (by decide) c hc,
        ne '\r' (by decide) c hc]
    · have among := mem_frontOf root version account slashes
      rw [alone, List.mem_singleton] at among
      exact path.versionFilled among
  have switched := switch_of_readsBack leaves accepted reads
  refine ⟨_, switched, isBeside_beside reads.clean, fun ascii => ?_⟩
  have written := escaped_of_isWordOrMark endpoint.scheme fun c hc =>
    isWordOrMark_of_isOrdinary (ordinary c hc) (ascii c hc)
  rw [String.ofList_toList] at written
  exact congrArg
    (fun segment => { endpoint with
      path := .segments (frontOf root version account slashes ++ [segment]) }) written

end

/--
Below an endpoint that ends in slashes, the account keeps its name and its containers keep their
place.  Another account and the description of the cluster are looked for beside and above the
account if there is at most one slash; with more of them, they are looked for below it or below
the version.  Where the endpoint is read as it is written, only names and the target of the request
can be refused.
-/
theorem account_by_slashes {given : String} {endpoint : Url}
    (parsed : Url.parse given = .ok endpoint)
    (scheme : endpoint.scheme = "http" ∨ endpoint.scheme = "https")
    (noQuery : endpoint.query = none) (noFragment : endpoint.fragment = none)
    {root : List String} {version account : String} {slashes : Nat}
    (path : Site.IsAccountPath endpoint root version account slashes) (settings : Settings)
    (transport : Transport σ) (state : σ) :
    ∃ site, Site.ofEndpoint endpoint settings = .ok site ∧ site.endpoint = endpoint ∧
      site.account = (Percent.decode? account).getD account ∧
      (∀ name, name ≠ "" → (∀ c ∈ name.toList, isOrdinary c = true) →
        ∃ other, (ofSite site).switch name = .ok other ∧
          (ofSite site).IsBeside (Site.frontOf root version account slashes) name other ∧
          ((∀ c ∈ name.toList, c.toNat < 128) → other.site.endpoint =
            { endpoint with
              path := .segments (Site.frontOf root version account slashes ++ [name]) })) ∧
      (∃ result new last,
        (capabilities transport.observed (ofSite site)).attempt ([], state) =
          (result, (new, last)) ∧
        (Observation.sends new).length ≤ 1 ∧
        (∀ send ∈ Observation.sends new, send.1.method = .get ∧
          Text.splitString '/' send.1.uri.path =
            "" :: (Site.rootOf root version account slashes ++ ["info"]) ∧
          send.1.uri.query = none) ∧
        (Url.parse endpoint.text = .ok endpoint → Observation.sends new = [] →
          ∃ error, result = .error error ∧ Request.target { endpoint with
            path := .segments (Site.rootOf root version account slashes ++ ["info"]) } =
              .error error)) ∧
      ∀ request : Request,
        (∀ url, request.url endpoint = .ok url → url.path = .segments
          (root ++ [version, account] ++ Address.below request.container request.object)) ∧
        (Url.parse endpoint.text = .ok endpoint →
          ¬Address.IsRefused request.container request.object →
          ∃ url, request.url endpoint = .ok url) := by
  obtain ⟨host, segments, -, web⟩ := Url.isWeb_of_parse parsed scheme
  refine ⟨_, path.ofEndpoint_eq settings, rfl, rfl, ?switching, ?describing,
    fun request => ⟨?_, ?_⟩⟩
  case switching =>
    exact fun name notEmpty ordinary => switch_of_isOrdinary path web notEmpty ordinary _
  case describing =>
    obtain ⟨result, answer, new, last, run, executed, failed⟩ := capabilities_executed transport
      (ofSite ⟨endpoint, (Percent.decode? account).getD account, settings⟩)
      path.clusterRoot_eq state
    refine ⟨result, new, last, run, ?_⟩
    generalize Observation.sends new = sends at executed
    cases executed with
    | unwritten unwritten =>
        refine ⟨by simp, by simp, fun stable _ => ⟨_, failed _ rfl, ?_⟩⟩
        exact info_unwritten path web (web.special_of_stable stable) noQuery noFragment unwritten
    | unanswered written =>
        have sent := info_on_wire path web written noFragment
        exact ⟨by simp, by simpa using sent, by simp⟩
    | refused written refusal =>
        have sent := info_on_wire path web written noFragment
        exact ⟨by simp, by simpa using sent, by simp⟩
    | accepted written accepts =>
        have sent := info_on_wire path web written noFragment
        exact ⟨by simp, by simpa using sent, by simp⟩
  · exact fun url h => path.path_of_url web noQuery noFragment h
  · intro stable accepted
    rcases Request.url_cases web (web.special_of_stable stable) noQuery noFragment request with
      ⟨-, refused⟩ | ⟨-, found⟩
    · exact absurd refused accepted
    · exact ⟨_, found⟩

/-- A cluster that describes itself without any limits. -/
def limitlessServer : Transport Unit where
  send _ := fun state => (⟨.ok ⟨.ok, .none, .bytes (Utf8.ofText "\x7b\x7d")⟩, 0⟩, state)

def deepEndpoint (slashes : Nat) : Url :=
  ⟨"http", "", "", some "swift.test", none,
    .segments (["swift", "v1", "AUTH_test"] ++ List.replicate slashes ""), none, none, false⟩

theorem isAccountPath_deepEndpoint (slashes : Nat) :
    Site.IsAccountPath (deepEndpoint slashes) ["swift"] "v1" "AUTH_test" slashes :=
  ⟨rfl, by decide, by decide, by decide⟩

theorem account_by_slash :
    ∃ site, Site.ofEndpoint (deepEndpoint 1) .standard = .ok site ∧ site.account = "AUTH_test" ∧
      (∃ other, (ofSite site).switch "AUTH_other" = .ok other ∧ other.site.endpoint =
        { deepEndpoint 1 with path := .segments ["swift", "v1", "AUTH_other"] }) ∧
      ∃ result new last,
        (capabilities limitlessServer.observed (ofSite site)).attempt ([], ()) =
          (result, (new, last)) ∧
        ∀ send ∈ Observation.sends new,
          Text.splitString '/' send.1.uri.path = ["", "swift", "info"] := by
  have parsed : Url.parse "http://swift.test/swift/v1/AUTH_test/" = .ok (deepEndpoint 1) := by
    decide +kernel
  obtain ⟨site, found, -, named, switching, ⟨result, new, last, run, -, sent, -⟩, -⟩ :=
    account_by_slashes parsed (.inl rfl) rfl rfl (isAccountPath_deepEndpoint 1) .standard
      limitlessServer ()
  obtain ⟨other, switched, -, located⟩ := switching "AUTH_other" (by decide)
    (Text.forall_of_all (by decide))
  have decoded : (Percent.decode? "AUTH_test").getD "AUTH_test" = "AUTH_test" := by decide +kernel
  have switching := located (Text.forall_of_all (by decide))
  refine ⟨site, found, named.trans decoded, ⟨other, switched, switching⟩, ?_⟩
  exact ⟨result, new, last, run, fun send h => (sent send h).2.1⟩

def belowEndpoint : Url :=
  { deepEndpoint 2 with path := .segments ["swift", "v1", "AUTH_test", "AUTH_other"] }

/-- After two slashes another account is looked for below the account, not beside it. -/
theorem not_beside_after_two_slashes :
    ¬∀ (given : String) (endpoint : Url) (root : List String) (version account name : String)
        (slashes : Nat) (settings : Settings) (site : Site) (other : Account),
      Url.parse given = .ok endpoint → endpoint.scheme = "http" → endpoint.query = none →
      endpoint.fragment = none → Site.IsAccountPath endpoint root version account slashes →
      (∀ c ∈ name.toList, isOrdinary c = true) → Site.ofEndpoint endpoint settings = .ok site →
      (ofSite site).switch name = .ok other →
      other.site.endpoint.path = .segments (root ++ [version, name]) := by
  intro claimed
  have parsed : Url.parse "http://swift.test/swift/v1/AUTH_test//" = .ok (deepEndpoint 2) := by
    decide +kernel
  have named : Site.ofEndpoint (deepEndpoint 2) .standard =
      .ok ⟨deepEndpoint 2, "AUTH_test", .standard⟩ := by decide +kernel
  have switched : (ofSite ⟨deepEndpoint 2, "AUTH_test", .standard⟩).switch "AUTH_other" =
      .ok (ofSite ⟨belowEndpoint, "AUTH_other", .standard⟩) := by decide +kernel
  have beside := claimed _ _ _ _ _ "AUTH_other" _ _ _ _ parsed rfl rfl rfl
    (isAccountPath_deepEndpoint 2) (Text.forall_of_all (by decide)) named switched
  exact absurd (Url.Path.segments.inj beside) (by decide)

end Account

end ObjectStorage
