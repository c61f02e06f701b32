import ObjectStorage.Proofs.Address.Parameters
import ObjectStorage.Proofs.Address.Names
import ObjectStorage.Proofs.Cache.Handles
import ObjectStorage.Proofs.Headers.Sending

/-!
# Where copies go

The request of a copy names the target's container and name whatever else the caller adds to it.
The target's account is named only if it is not the source's: to an object of the same account the
copy goes where a destination account among the caller's headers sends it.
-/

namespace ObjectStorage

theorem Utf8.ofText_injective {first second : String} (h : ofText first = ofText second) :
    first = second := by
  have := congrArg decode h
  rw [decode_ofText, decode_ofText] at this
  exact Except.ok.inj this

private theorem Handle.url_of_request {kind : Kind} {handle : Handle kind} {method : Http.Method}
    {options : Options} {expected : List Http.Status} {url : Url}
    (h : (handle.request method options expected).url handle.site.endpoint = .ok url) :
    ∃ located, handle.url = .ok located ∧
      url = if options.values.isEmpty then located else located.addPairs options.values.toList := by
  obtain ⟨located, hlocated, -, shape⟩ := Request.url_of_bare h
  refine ⟨located, ?_, shape⟩
  rw [Handle.url, ← hlocated]
  apply Request.url_congr <;> rfl

namespace Object

variable {σ : Type}

/-! ## The message -/

/-- The account that a copy names, if it names one. -/
def namedAccount? (source target : Object) (options : Options) : Option String :=
  if source.site.account = target.site.account then options.headers.get? "Destination-Account"
  else some target.site.account

structure IsCopyOf (source target : Object) (options : Options) (message : Http.Request) :
    Prop where
  method : message.method = .copy
  located : ∃ url, source.url = .ok url ∧ Request.target
    (if options.values.isEmpty then url else url.addPairs options.values.toList) = .ok message.uri
  destination : ∃ path, message.fields.get? "destination" = some ⟨Utf8.ofText ("/" ++ path), []⟩ ∧
    Percent.decode? path = some (target.containerName ++ "/" ++ target.name)
  account : message.fields.get? "destination-account" =
    (namedAccount? source target options).map fun account => ⟨Utf8.ofText account, []⟩

section

variable {source target : Object} {options : Options} {message : Http.Request}

private theorem values_copyOptions (source target : Object) (options : Options) :
    (copyOptions source target options).values = options.values := by
  unfold copyOptions
  dsimp only
  split <;> rfl

private theorem get?_destination (source target : Object) (options : Options) :
    (copyOptions source target options).headers.get? "destination" =
      some (Address.path target.containerName (some target.name)) := by
  unfold copyOptions Options.withHeader
  dsimp only
  split
  · rw [Headers.get?_set, if_pos (by decide +kernel)]
  · rw [Headers.get?_set, if_neg (by decide +kernel), Headers.get?_set, if_pos (by decide +kernel)]

private theorem get?_destinationAccount (source target : Object) (options : Options) :
    (copyOptions source target options).headers.get? "destination-account" =
      namedAccount? source target options := by
  have spelled : Headers.canonicalName "destination-account" =
      Headers.canonicalName "Destination-Account" := by
    decide +kernel
  unfold copyOptions namedAccount? Options.withHeader
  dsimp only
  split
  · rw [Headers.get?_set, if_neg (by decide +kernel), Headers.get?, Headers.get?, spelled]
  · rw [Headers.get?_set, if_pos spelled]

theorem destination_of_written
    (written : (copyRequest source target options).written source.site.endpoint = .ok message) :
    message.fields.get? "destination" =
      some ⟨Utf8.ofText (Address.path target.containerName (some target.name)), []⟩ :=
  Headers.get?_toFields (by decide) (by decide +kernel)
    (get?_destination source target options) (Request.fields_of_written written)

theorem isCopyOf_of_written
    (written : (copyRequest source target options).written source.site.endpoint = .ok message) :
    IsCopyOf source target options message where
  method := Request.method_of_written written
  located := by
    obtain ⟨url, hurl, hmessage⟩ := ok_of_bind written
    obtain ⟨located, hlocated, shape⟩ := Handle.url_of_request hurl
    rw [values_copyOptions] at shape
    exact ⟨located, hlocated, shape ▸ Request.target_of_message hmessage⟩
  destination := by
    obtain ⟨path, shape, decoded⟩ :=
      Address.exists_path target.containerName (some target.name)
    refine ⟨path, ?_, decoded⟩
    rw [← shape]
    exact destination_of_written written
  account := by
    have sent := Request.fields_of_written written
    have held := get?_destinationAccount source target options
    cases named : namedAccount? source target options with
    | none =>
        rw [named] at held
        exact Headers.get?_toFields_of_absent (by decide) held sent
    | some account =>
        rw [named] at held
        exact Headers.get?_toFields (by decide) (by decide +kernel) held sent

/-! ## The account that it goes to -/

/-- The account that the message names, or else that of the source. -/
def effectiveAccount (source : Object) (message : Http.Request) : Bytes :=
  match message.fields.get? "destination-account" with
  | some values => values.first
  | none => Utf8.ofText source.site.account

/-- The copy goes to the target's account unless it is the source's and the caller names another. -/
theorem effectiveAccount_iff (isCopy : IsCopyOf source target options message) :
    effectiveAccount source message = Utf8.ofText target.site.account ↔
      source.site.account = target.site.account → ∀ given,
        options.headers.get? "Destination-Account" = some given → given = target.site.account := by
  unfold effectiveAccount
  rw [isCopy.account, namedAccount?]
  by_cases same : source.site.account = target.site.account
  · rw [if_pos same]
    cases options.headers.get? "Destination-Account" with
    | none => exact iff_of_true (congrArg Utf8.ofText same) fun _ => nofun
    | some given =>
        constructor
        · rintro goes - _ ⟨⟩
          exact Utf8.ofText_injective goes
        · intro harmless
          exact congrArg Utf8.ofText (harmless same given rfl)
  · rw [if_neg same]
    exact iff_of_true rfl fun equal => absurd equal same

end

/-! ## Whole copies -/

/-- What is sent for a copy: nothing, or one request that names the target. -/
inductive Directed (source target : Object) (options : Options) :
    Except Error Unit → Sends → Prop
  | refused {fault : RequestFault}
      (unnamed : Address.check target.containerName (some target.name) = .error fault) :
      Directed source target options (.error (.invalidRequest fault)) []
  | unwritten {error : Error}
      (named : Address.check target.containerName (some target.name) = .ok ())
      (unwritten : (copyRequest source target options).written source.site.endpoint =
        .error error) :
      Directed source target options (.error error) []
  | sent {result : Except Error Unit} {message : Http.Request} {exchange : Exchange}
      (named : Address.check target.containerName (some target.name) = .ok ())
      (isCopy : IsCopyOf source target options message)
      (designated : effectiveAccount source message = Utf8.ofText target.site.account ↔
        source.site.account = target.site.account → ∀ given,
          options.headers.get? "Destination-Account" = some given →
            given = target.site.account) :
      Directed source target options result [(message, exchange)]

/--
A copy is refused before anything is sent, or one request names the target's container and name.
It goes to the target's account, too, but for a copy within one account whose caller's headers name
another account.
-/
theorem copy_designates (transport : Transport σ) (source target : Object) (options : Options)
    (events : List Observation) (state : σ) :
    ∃ result new last after,
      (Object.copyFrom transport.observed source options).attempt (target, (events, state)) =
        (result, (after, (events ++ new, last))) ∧
      Directed source target options result (Observation.sends new) := by
  rw [attempt_copyFrom]
  cases named : Address.check target.containerName (some target.name) with
  | error fault =>
      refine ⟨_, [], state, target, ?_, .refused named⟩
      rw [List.append_nil]
  | ok =>
      obtain ⟨result, new, last, run, executed⟩ := Request.execute_executed transport
        (copyRequest source target options) source.site.endpoint events state
      have sent {result : Except Error Unit} {message : Http.Request} {exchange : Exchange}
          (written : (copyRequest source target options).written source.site.endpoint =
            .ok message) :
          Directed source target options result [(message, exchange)] :=
        .sent named (isCopyOf_of_written written)
          (effectiveAccount_iff (isCopyOf_of_written written))
      dsimp only
      rw [run]
      generalize hsends : Observation.sends new = sends at executed
      cases executed with
      | unwritten unwritten =>
          exact ⟨_, new, last, target, rfl, hsends ▸ .unwritten named unwritten⟩
      | unanswered written => exact ⟨_, new, last, target, rfl, hsends ▸ sent written⟩
      | refused written => exact ⟨_, new, last, target, rfl, hsends ▸ sent written⟩
      | accepted written => exact ⟨_, new, last, target.invalidated, rfl, hsends ▸ sent written⟩

def createdServer : Transport Unit where
  send _ := fun state => (⟨.ok ⟨.created, .none, .empty⟩, 0⟩, state)

def homeSite : Site :=
  ⟨⟨"http", "", "", some "swift.test", none, .segments ["v1", "AUTH_test"], none, none, false⟩,
    "AUTH_test", .standard⟩

/-- Headers of another copy send one that stays in its account to the account of the other. -/
theorem not_designated_within_account :
    ¬∀ (site : Site) (container name other : String) (options : Options),
      ∀ send ∈ Observation.sends ((Object.copyFrom createdServer.observed
          (Handle.fresh site (.object container name)) options).attempt
            ((Handle.fresh site (.object container other) : Object), ([], ()))).2.2.1,
        effectiveAccount (Handle.fresh site (.object container name)) send.1 =
          Utf8.ofText site.account := by
  intro designated
  have goes : (Observation.sends ((Object.copyFrom createdServer.observed
      (Handle.fresh homeSite (.object "c" "o"))
      (Options.none.withHeader "Destination-Account" "AUTH_other")).attempt
        ((Handle.fresh homeSite (.object "c" "p") : Object), ([], ()))).2.2.1).map
          (fun send => effectiveAccount (Handle.fresh homeSite (.object "c" "o")) send.1) =
        [Utf8.ofText "AUTH_other"] := by
    decide +kernel
  obtain ⟨send, sent, elsewhere⟩ := List.map_eq_singleton_iff.mp goes
  have claimed := designated homeSite "c" "o" "p"
    (Options.none.withHeader "Destination-Account" "AUTH_other") send (by simp [sent])
  exact absurd (Utf8.ofText_injective (elsewhere.symm.trans claimed)) (by decide)

end Object

end ObjectStorage
