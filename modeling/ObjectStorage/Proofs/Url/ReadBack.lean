import Mathlib.Data.List.TakeDrop
import Mathlib.Data.List.TakeWhile
import ObjectStorage.Proofs.Outcome
import ObjectStorage.Proofs.Url.Parts

/-!
# Web addresses are read back

A web address is a URL whose scheme is `http` or `https` and whose parts are in the form in which
they are written.  Reading gives web addresses only (`isWeb_of_parse`), and the text of a web
address is read as that address, provided that its host is (`parse_text`).  The path may be
exchanged for any other written path, so that what lies below an address is read as it was put
together.
-/

namespace ObjectStorage.Url

open Percent

structure IsWeb (url : Url) (host : String) (segments : List String) : Prop where
  scheme : url.scheme = "http" ∨ url.scheme = "https"
  username : ∀ c ∈ url.username.toList, isKept escapedInUserinfo c = true
  password : ∀ c ∈ url.password.toList, isKept escapedInUserinfo c = true
  hasHost : url.host = some host
  isHost : IsHost host.toList
  port : ∀ port, url.port = some port → port ≤ 65535 ∧ defaultPort? url.scheme ≠ some port
  hasPath : url.path = .segments segments
  isSegment : ∀ s ∈ segments, IsSegment s
  query : ∀ query, url.query = some query →
    ∀ c ∈ query.toList, isKept escapedInSpecialQuery c = true
  fragment : ∀ fragment, url.fragment = some fragment →
    ∀ c ∈ fragment.toList, isKept escapedInFragment c = true
  unguarded : url.guarded = false

section

variable {url : Url} {host : String} {segments : List String}

/-! ## The text -/

def authorityChars (url : Url) (host : String) : List Char :=
  url.userinfoText.toList ++ (host.toList ++ url.portText.toList)

theorem IsWeb.toList_text (web : IsWeb url host segments) :
    url.text.toList = url.scheme.toList ++ ':' :: '/' :: '/' ::
      (url.authorityChars host ++ pathChars segments ++ tailChars '?' url.query ++
        tailChars '#' url.fragment) := by
  have query : url.queryText.toList = tailChars '?' url.query := by
    unfold queryText tailChars
    cases url.query <;> simp
  have fragment : url.fragmentText.toList = tailChars '#' url.fragment := by
    unfold fragmentText tailChars
    cases url.fragment <;> simp
  simp [text, authorityText, web.hasHost, web.hasPath, authorityChars, toList_pathText, query, fragment]

theorem IsWeb.isSpecial_scheme (web : IsWeb url host segments) : isSpecial url.scheme = true := by
  rcases web.scheme with h | h <;> rw [h] <;> decide

theorem IsWeb.not_file (web : IsWeb url host segments) : url.scheme ≠ "file" := by
  rcases web.scheme with h | h <;> rw [h] <;> decide

/-- The characters that end no part of an address before the path. -/
def isInAuthority (c : Char) : Bool := 0x20 < c.toNat && !"/\\?#".toList.contains c

theorem isInAuthority_of_userinfo {c : Char} (h : isKept escapedInUserinfo c = true) :
    isInAuthority c = true ∧ c ≠ '@' ∧ c ≠ ':' :=
  forall_kept (P := fun c => isInAuthority c = true ∧ c ≠ '@' ∧ c ≠ ':') (by decide +kernel) h

theorem isInAuthority_of_host {c : Char} (h : isInHost c = true) : isInAuthority c = true := by
  have fewer : ∀ d ∈ "/\\?#".toList, d ∈ "/\\?#@".toList := Text.forall_of_all (by decide)
  simp only [isInHost, isInAuthority, Bool.and_eq_true, Bool.not_eq_true', decide_eq_true_eq,
    Bool.eq_false_iff, ne_eq, List.contains_iff_mem] at h ⊢
  exact ⟨h.1, fun hc => h.2 (fewer c hc)⟩

/-! ## The authority -/

private theorem isInAuthority_of_digit {c : Char} (h : 48 ≤ c.toNat ∧ c.toNat ≤ 57) :
    isInAuthority c = true ∧ c ≠ '@' := by
  have inName := isInName_of_digit h
  simp only [isInName, Bool.and_eq_true] at inName
  refine ⟨isInAuthority_of_host inName.1, ?_⟩
  rintro rfl
  exact absurd h (by decide)

theorem mem_portText {c : Char} (h : c ∈ url.portText.toList) :
    c = ':' ∨ 48 ≤ c.toNat ∧ c.toNat ≤ 57 := by
  unfold portText at h
  split at h
  · rw [String.toList_append, List.mem_append] at h
    rcases h with h | h
    · exact .inl (by simpa using h)
    · exact .inr (mem_writeNat h)
  · exact nomatch h

theorem IsWeb.mem_hostAndPort (web : IsWeb url host segments) {c : Char}
    (h : c ∈ host.toList ++ url.portText.toList) : isInAuthority c = true ∧ c ≠ '@' := by
  rcases List.mem_append.mp h with h | h
  · have inHost := web.isHost.isInHost_of_mem h
    refine ⟨isInAuthority_of_host inHost, ?_⟩
    rintro rfl
    exact absurd inHost (by decide)
  · rcases mem_portText h with rfl | h
    · decide
    · exact isInAuthority_of_digit h

private theorem IsWeb.mem_userinfoText (web : IsWeb url host segments) {c : Char}
    (h : c ∈ url.userinfoText.toList) : isInAuthority c = true := by
  have username {c : Char} (hc : c ∈ url.username.toList) :=
    (isInAuthority_of_userinfo (web.username c hc)).1
  have password {c : Char} (hc : c ∈ url.password.toList) :=
    (isInAuthority_of_userinfo (web.password c hc)).1
  have mark : isInAuthority '@' = true := by decide
  have colon : isInAuthority ':' = true := by decide
  unfold userinfoText at h
  split at h
  · exact nomatch h
  split at h
  · simp only [String.toList_append, List.mem_append] at h
    rcases h with h | h
    · exact username h
    · have : c = '@' := by simpa using h
      exact this ▸ mark
  · simp only [String.toList_append, List.mem_append] at h
    rcases h with ((h | h) | h) | h
    · exact username h
    · have : c = ':' := by simpa using h
      exact this ▸ colon
    · exact password h
    · have : c = '@' := by simpa using h
      exact this ▸ mark

theorem IsWeb.mem_authorityChars (web : IsWeb url host segments) {c : Char}
    (h : c ∈ url.authorityChars host) : isInAuthority c = true := by
  rcases List.mem_append.mp h with h | h
  · exact web.mem_userinfoText h
  · exact (web.mem_hostAndPort h).1

/-- What stands before the at sign, if there is one. -/
def userinfo? (url : Url) : Option (List Char) :=
  if url.username = "" ∧ url.password = "" then none
  else if url.password = "" then some url.username.toList
  else some (url.username.toList ++ ':' :: url.password.toList)

private theorem IsWeb.cutLast?_authorityChars (web : IsWeb url host segments) :
    Text.cutLast? '@' (url.authorityChars host) =
      url.userinfo?.map fun userinfo => (userinfo, host.toList ++ url.portText.toList) := by
  have noMark : '@' ∉ host.toList ++ url.portText.toList := fun h =>
    (web.mem_hostAndPort h).2 rfl
  unfold authorityChars userinfoText userinfo?
  split
  · exact cutLast?_eq_none (by simpa using noMark)
  split
  · simpa using cutLast?_append url.username.toList noMark
  · simpa using cutLast?_append (url.username.toList ++ ':' :: url.password.toList) noMark

private theorem IsWeb.hostAndPort_of_none (_ : IsWeb url host segments) (h : url.userinfo? = none) :
    url.authorityChars host = host.toList ++ url.portText.toList := by
  unfold userinfo? at h
  split at h
  · next hempty => simp [authorityChars, userinfoText, hempty]
  split at h <;> exact nomatch h

private theorem IsWeb.cutAt_userinfo (web : IsWeb url host segments) :
    cutAt ':' (url.userinfo?.getD []) =
      (url.username.toList, if url.password = "" then none else some url.password.toList) := by
  have noColon : ':' ∉ url.username.toList := fun h =>
    (isInAuthority_of_userinfo (web.username _ h)).2.2 rfl
  unfold userinfo?
  split
  · next h => simp [h, cutAt, Text.cut?]
  split
  · next h => simpa [h] using cutAt_of_not_mem noColon
  · next h => simpa [h] using cutAt_append noColon url.password.toList

private theorem IsWeb.escaped_password (web : IsWeb url host segments) :
    escaped escapedInUserinfo
      ((if url.password = "" then none else some url.password.toList).getD []) = url.password := by
  split
  · next h =>
    rw [h]
    rfl
  · rw [Option.getD_some, isPartSet_userinfo.escaped_of_kept web.password, String.ofList_toList]

private theorem IsWeb.cutPort_host (web : IsWeb url host segments) :
    Url.cutPort false (host.toList ++ url.portText.toList) =
      (host.toList, url.port.map fun port => Nat.toDigits 10 port) := by
  rw [web.isHost.cutPort_append]
  unfold portText
  cases url.port with
  | none => simp [Url.cutPort]
  | some port => simp [Url.cutPort, Integer.writeNat]

def portDigits (url : Url) : List Char :=
  (url.port.map fun port => Nat.toDigits 10 port).getD []

private theorem isSlash_of_mem_portDigits {c : Char} (h : c ∈ url.portDigits) :
    isSlash c = false := by
  unfold portDigits at h
  cases hport : url.port with
  | none => simp [hport] at h
  | some port =>
      rw [hport, Option.map_some, Option.getD_some] at h
      have digit := Integer.isDigit_of_mem_toDigits h
      have ne (d : Char) (hd : d.toNat < 48 ∨ 57 < d.toNat) : c ≠ d := fun heq => by
        subst heq
        omega
      simp [isSlash, ne '/' (by decide), ne '\\' (by decide)]

private theorem span_portDigits :
    url.portDigits.span (fun c => !isSlash c) = (url.portDigits, []) := by
  have all (c) (h : c ∈ url.portDigits) : (!isSlash c) = true := by
    simp [isSlash_of_mem_portDigits h]
  rw [List.span_eq_takeWhile_dropWhile, List.takeWhile_eq_self_iff.mpr all,
    List.dropWhile_eq_nil_iff.mpr all]

private theorem IsWeb.readPort_portDigits (web : IsWeb url host segments) :
    Url.readPort url.scheme url.portDigits = .ok url.port := by
  unfold portDigits
  cases hport : url.port with
  | none => rfl
  | some port =>
      obtain ⟨small, notDefault⟩ := web.port port hport
      unfold Url.readPort
      split
      · next h => exact absurd h Nat.toDigits_ne_nil
      · rw [Option.map_some, Option.getD_some, Integer.readDigits_toDigits .tooLarge small]
        simp [notDefault]

private theorem IsWeb.readHost_host (web : IsWeb url host segments) :
    Url.readHost url.scheme host.toList = Host.special host.toList := by
  rw [Url.readHost, if_pos web.isSpecial_scheme, if_neg (by simpa using web.isHost.ne_nil)]

private theorem ne_empty_of_special {text : List Char} {host : String}
    (h : Host.special text = .ok host) : host ≠ "" := by
  rintro rfl
  exact (isHost_of_special h).ne_nil rfl

private theorem readAuthority_of_cut {scheme : String} {text hostAndPort : List Char}
    {userinfo : Option (List Char)} (goesOn : Bool)
    (cut : Text.cutLast? '@' text = userinfo.map fun userinfo => (userinfo, hostAndPort))
    (whole : userinfo = none → text = hostAndPort) (hne : hostAndPort ≠ []) :
    Url.readAuthority scheme text goesOn = do
      let (username, password) := cutAt ':' (userinfo.getD [])
      let username := escaped escapedInUserinfo username
      let password := escaped escapedInUserinfo (password.getD [])
      let (hostText, portText) := Url.cutPort false hostAndPort
      let host ← Url.readHost scheme hostText
      if host = "" ∧ (portText.isSome ∨ username ≠ "" ∨ password ≠ "") then throw .emptyHost
      let (digits, rest) := (portText.getD []).span fun c => !isSlash c
      let port ← Url.readPort scheme digits
      return ⟨username, password, host, port, rest⟩ := by
  have notEmpty : hostAndPort.isEmpty = false := by simpa using hne
  unfold Url.readAuthority
  rw [cut]
  cases userinfo with
  | none => simp [whole rfl]
  | some userinfo => simp [notEmpty]

theorem IsWeb.readAuthority_authorityChars (web : IsWeb url host segments) (goesOn : Bool) :
    Url.readAuthority url.scheme (url.authorityChars host) goesOn =
      (Host.special host.toList).map fun host => ⟨url.username, url.password, host, url.port, []⟩ := by
  have username : escaped escapedInUserinfo url.username.toList = url.username := by
    rw [isPartSet_userinfo.escaped_of_kept web.username, String.ofList_toList]
  have digits : (url.port.map fun port => Nat.toDigits 10 port).getD [] = url.portDigits := rfl
  have some_host : host.toList ++ url.portText.toList ≠ [] := by simp [web.isHost.ne_nil]
  rw [readAuthority_of_cut goesOn web.cutLast?_authorityChars web.hostAndPort_of_none some_host]
  simp only [web.cutAt_userinfo, web.cutPort_host, username, web.escaped_password,
    web.readHost_host, digits, span_portDigits, web.readPort_portDigits]
  cases h : Host.special host.toList with
  | error fault => rfl
  | ok host =>
      have := ne_empty_of_special h
      simp [Except.map, this, bind, Except.bind, pure, Except.pure]

/-! ## The path -/

/-- The segments that are read: there is always one. -/
def rooted (segments : List String) : List String := if segments = [] then [""] else segments

private theorem IsWeb.pathAfterAuthority_pathChars (web : IsWeb url host segments) :
    Url.pathAfterAuthority true (pathChars segments) = .segments (rooted segments) := by
  have noBackslash : '\\' ∉ pathChars segments := by
    intro h
    rcases mem_pathChars web.isSegment h with h | h
    · exact absurd h (by decide)
    · exact h.2 rfl
  rw [Url.pathAfterAuthority, normalSlashes_of_not_mem noBackslash]
  cases segments with
  | nil => rfl
  | cons first rest =>
      rw [pathChars_cons]
      simp only [rooted, reduceCtorEq, if_false]
      rw [segmentsOf_join (by simp) web.isSegment]

theorem isSlash_of_isInAuthority {c : Char} (h : isInAuthority c = true) : isSlash c = false := by
  have ne (d : Char) (hd : isInAuthority d = false) : c ≠ d := fun heq => by
    rw [heq, hd] at h
    exact nomatch h
  simp [isSlash, ne '/' (by decide), ne '\\' (by decide)]

theorem IsWeb.authorityChars_ne_nil (web : IsWeb url host segments) :
    url.authorityChars host ≠ [] := by
  simp [authorityChars, web.isHost.ne_nil]

private theorem head_pathChars (segments : List String) :
    pathChars segments = [] ∨ ∃ rest, pathChars segments = '/' :: rest := by
  cases segments with
  | nil => exact .inl rfl
  | cons first rest => exact .inr ⟨_, pathChars_cons first rest⟩

theorem IsWeb.withAuthority_authorityChars (web : IsWeb url host segments) (goesOn : Bool) :
    Url.withAuthority url.scheme (url.authorityChars host ++ pathChars segments) goesOn =
      (Host.special host.toList).map fun host =>
        { url with
          host := some host, path := .segments (rooted segments), query := none
          fragment := none } := by
  have plain (c) (h : c ∈ url.authorityChars host) : (!isSlash c) = true := by
    simp [isSlash_of_isInAuthority (web.mem_authorityChars h)]
  have ends : (pathChars segments).takeWhile (fun c => !isSlash c) = [] ∧
      (pathChars segments).dropWhile (fun c => !isSlash c) = pathChars segments := by
    rcases head_pathChars segments with h | ⟨rest, h⟩
    · simp [h]
    · simp [h, isSlash]
  unfold Url.withAuthority
  simp only [web.isSpecial_scheme, if_true, List.takeWhile_append_of_pos plain,
    List.dropWhile_append_of_pos plain, ends, List.append_nil, web.readAuthority_authorityChars]
  cases Host.special host.toList with
  | error fault => rfl
  | ok host =>
      simp [Except.map, bind, Except.bind, pure, Except.pure, web.pathAfterAuthority_pathChars,
        web.unguarded]

/-- The characters that end neither the path nor the query. -/
def isInMain (c : Char) : Bool := 0x20 < c.toNat && c ≠ '?' && c ≠ '#'

private theorem isInMain_of_isInAuthority {c : Char} (h : isInAuthority c = true) :
    isInMain c = true := by
  have ne (d : Char) (hd : isInAuthority d = false) : c ≠ d := fun heq => by
    rw [heq, hd] at h
    exact nomatch h
  have large := h
  simp only [isInAuthority, Bool.and_eq_true] at large
  simp [isInMain, ne '?' (by decide), ne '#' (by decide), of_decide_eq_true large.1]

private theorem isInMain_of_path {c : Char} (h : isKept escapedInPath c = true) :
    isInMain c = true :=
  forall_kept (P := fun c => isInMain c = true) (by decide +kernel) h

/-- What stands between the scheme and the query. -/
def mainChars (url : Url) (host : String) (segments : List String) : List Char :=
  '/' :: '/' :: (url.authorityChars host ++ pathChars segments)

theorem IsWeb.mem_mainChars (web : IsWeb url host segments) {c : Char}
    (h : c ∈ url.mainChars host segments) : isInMain c = true := by
  simp only [mainChars, List.mem_cons, List.mem_append] at h
  rcases h with rfl | rfl | h | h
  · decide
  · decide
  · exact isInMain_of_isInAuthority (web.mem_authorityChars h)
  · rcases mem_pathChars web.isSegment h with rfl | h
    · decide
    · exact isInMain_of_path h.1

theorem lt_of_isInMain {c : Char} (h : isInMain c = true) : 0x20 < c.toNat := by
  simp only [isInMain, Bool.and_eq_true] at h
  exact of_decide_eq_true h.1.1

theorem IsWeb.readMain_mainChars (web : IsWeb url host segments) (goesOn : Bool) :
    Url.readMain url.scheme (url.mainChars host segments) goesOn =
      (Host.special host.toList).map fun host =>
        { url with
          host := some host, path := .segments (rooted segments), query := none
          fragment := none } := by
  have clean : content (url.mainChars host segments) = url.mainChars host segments :=
    content_of_clean fun c hc => isTabOrLineEnd_of_lt (lt_of_isInMain (web.mem_mainChars hc))
  have dropped : (url.mainChars host segments).dropWhile isSlash =
      url.authorityChars host ++ pathChars segments := by
    cases h : url.authorityChars host with
    | nil => exact absurd h web.authorityChars_ne_nil
    | cons c rest =>
        have hc : c ∈ url.authorityChars host := by simp [h]
        have := isSlash_of_isInAuthority (web.mem_authorityChars hc)
        have slash : isSlash '/' = true := rfl
        simp [mainChars, h, slash, this]
  rw [Url.readMain, if_neg web.not_file]
  simp only [clean, web.isSpecial_scheme, if_true, dropped, web.withAuthority_authorityChars]

/-! ## The whole address -/

private theorem trim_of_clean {text : List Char} (h : ∀ c ∈ text, 0x20 < c.toNat) :
    Text.trim isOutside text = text := by
  have kept {text : List Char} (h : ∀ c ∈ text, 0x20 < c.toNat) :
      text.dropWhile isOutside = text := by
    cases text with
    | nil => rfl
    | cons c rest =>
        have := h c List.mem_cons_self
        simp [isOutside, Nat.not_le.mpr this]
  rw [Text.trim, Text.trimStart, kept h, Text.trimEnd, kept (by simpa using h), List.reverse_reverse]

theorem IsWeb.readScheme?_scheme (web : IsWeb url host segments) (rest : List Char) :
    Url.readScheme? (url.scheme.toList ++ ':' :: rest) = some (url.scheme, rest) := by
  rcases web.scheme with h | h <;> rw [h]
  · rfl
  · rfl

theorem IsWeb.mem_query (web : IsWeb url host segments) {c : Char}
    (h : c ∈ tailChars '?' url.query) : 0x20 < c.toNat ∧ c ≠ '#' := by
  cases hquery : url.query with
  | none => simp [hquery, tailChars] at h
  | some query =>
      rw [hquery, tailChars] at h
      rcases List.mem_cons.mp h with rfl | h
      · decide
      · have kept := web.query query hquery c h
        refine ⟨isPartSet_specialQuery.lt_of_kept kept, ?_⟩
        rintro rfl
        exact absurd kept (by decide)

private theorem IsWeb.mem_fragment (web : IsWeb url host segments) {c : Char}
    (h : c ∈ tailChars '#' url.fragment) : 0x20 < c.toNat := by
  cases hfragment : url.fragment with
  | none => simp [hfragment, tailChars] at h
  | some fragment =>
      rw [hfragment, tailChars] at h
      rcases List.mem_cons.mp h with rfl | h
      · decide
      · exact isPartSet_fragment.lt_of_kept (web.fragment fragment hfragment c h)

private theorem IsWeb.escaped_query (web : IsWeb url host segments) :
    (url.query.map String.toList).map (escaped escapedInSpecialQuery) = url.query := by
  cases hquery : url.query with
  | none => rfl
  | some query =>
      simp only [Option.map_some]
      rw [isPartSet_specialQuery.escaped_of_kept (web.query query hquery), String.ofList_toList]

private theorem IsWeb.escaped_fragment (web : IsWeb url host segments) :
    (url.fragment.map String.toList).map (escaped escapedInFragment) = url.fragment := by
  cases hfragment : url.fragment with
  | none => rfl
  | some fragment =>
      simp only [Option.map_some]
      rw [isPartSet_fragment.escaped_of_kept (web.fragment fragment hfragment),
        String.ofList_toList]

private theorem IsWeb.mem_scheme (web : IsWeb url host segments) {c : Char}
    (h : c ∈ url.scheme.toList) : 0x20 < c.toNat := by
  have letters : ∀ c ∈ "http".toList ++ "https".toList, 0x20 < c.toNat :=
    Text.forall_of_all (by decide)
  rcases web.scheme with hscheme | hscheme <;> rw [hscheme] at h
  · exact letters c (List.mem_append_left _ h)
  · exact letters c (List.mem_append_right _ h)

theorem parse_text (web : IsWeb url host segments) :
    parse url.text = (Host.special host.toList).map fun host =>
      { url with host := some host, path := .segments (rooted segments) } := by
  have shape : url.text.toList = url.scheme.toList ++ ':' ::
      (url.mainChars host segments ++ tailChars '?' url.query ++ tailChars '#' url.fragment) := by
    rw [web.toList_text]
    simp [mainChars]
  have clean : ∀ c ∈ url.text.toList, 0x20 < c.toNat := by
    rw [shape]
    intro c hc
    simp only [List.mem_append, List.mem_cons] at hc
    rcases hc with h | rfl | (h | h) | h
    · exact web.mem_scheme h
    · decide
    · exact lt_of_isInMain (web.mem_mainChars h)
    · exact (web.mem_query h).1
    · exact web.mem_fragment h
  have noHash : '#' ∉ url.mainChars host segments ++ tailChars '?' url.query := by
    intro h
    rcases List.mem_append.mp h with h | h
    · exact absurd (web.mem_mainChars h) (by decide)
    · exact (web.mem_query h).2 rfl
  have noMark : '?' ∉ url.mainChars host segments := fun h =>
    absurd (web.mem_mainChars h) (by decide)
  unfold parse
  rw [trim_of_clean clean, shape, web.readScheme?_scheme]
  simp only [cutAt_tail noHash, cutAt_tail noMark, web.readMain_mainChars, web.isSpecial_scheme,
    if_true, web.escaped_query, web.escaped_fragment]
  cases Host.special host.toList with
  | error fault => rfl
  | ok host => rfl

theorem IsWeb.special_of_stable (web : IsWeb url host segments) (h : parse url.text = .ok url) :
    Host.special host.toList = .ok host := by
  rw [parse_text web] at h
  cases hread : Host.special host.toList with
  | error fault =>
      rw [hread] at h
      exact nomatch h
  | ok read =>
      rw [hread] at h
      simp only [Except.map, Except.ok.injEq] at h
      have same := congrArg Url.host h
      rw [web.hasHost] at same
      simpa using same

theorem IsWeb.parse_text (web : IsWeb url host segments)
    (h : Host.special host.toList = .ok host) :
    parse url.text = .ok { url with path := .segments (rooted segments) } := by
  rw [Url.parse_text web, h]
  simp only [Except.map, web.hasHost]

theorem rooted_ne_nil (segments : List String) : rooted segments ≠ [] := by
  unfold rooted
  split
  · simp
  · next h => exact h

theorem rooted_of_ne_nil (h : segments ≠ []) : rooted segments = segments := if_neg h

theorem IsWeb.eq_of_text {other : Url} {otherHost : String} {otherSegments : List String}
    (web : IsWeb url host segments) (otherWeb : IsWeb other otherHost otherSegments)
    (h : Host.special host.toList = .ok host)
    (otherRead : Host.special otherHost.toList = .ok otherHost)
    (hne : segments ≠ []) (otherNe : otherSegments ≠ []) (same : url.text = other.text) :
    url = other := by
  have first := web.parse_text h
  have second := otherWeb.parse_text otherRead
  rw [rooted_of_ne_nil hne, ← web.hasPath] at first
  rw [rooted_of_ne_nil otherNe, ← otherWeb.hasPath, ← same, first] at second
  exact Except.ok.inj second

theorem IsWeb.withPath (web : IsWeb url host segments) {others : List String}
    (h : ∀ s ∈ others, IsSegment s) :
    IsWeb { url with path := .segments others } host others :=
  { web with hasPath := rfl, isSegment := h }

theorem IsWeb.withQuery (web : IsWeb url host segments) {query : Option String}
    (h : ∀ text, query = some text → ∀ c ∈ text.toList, isKept escapedInSpecialQuery c = true) :
    IsWeb { url with query := query } host segments :=
  { web with query := h }

end

/-! ## What is read is a web address -/

private theorem le_of_readDigits {limit read n : Nat} {beyond : Integer.Fault} {digits : List Char}
    (h : Integer.readDigits limit beyond read digits = .ok n) (small : read ≤ limit) :
    n ≤ limit := by
  induction digits generalizing read with
  | nil =>
      cases h
      exact small
  | cons c rest ih =>
      rw [Integer.readDigits] at h
      split at h
      · cases h
      · split at h
        · cases h
        · next d _ within => exact ih h (Nat.le_of_not_lt within)

private theorem port_of_read {scheme : String} {text : List Char} {read : Option Nat}
    (h : readPort scheme text = .ok read) (port : Nat) (hport : read = some port) :
    port ≤ 65535 ∧ defaultPort? scheme ≠ some port := by
  unfold readPort at h
  split at h
  · cases h
    exact nomatch hport
  split at h
  · exact nomatch h
  · next value hvalue =>
    cases h
    split at hport
    · exact nomatch hport
    · next notDefault =>
      cases hport
      exact ⟨le_of_readDigits hvalue (Nat.zero_le _), notDefault⟩

private theorem host_of_read {scheme : String} {text : List Char} {host : String}
    (special : isSpecial scheme = true) (h : readHost scheme text = .ok host) :
    IsHost host.toList := by
  rw [readHost, if_pos special] at h
  split at h
  · exact nomatch h
  · exact isHost_of_special h

private theorem authority_of_read {scheme : String} {text : List Char} {goesOn : Bool}
    {authority : Authority} (special : isSpecial scheme = true)
    (h : readAuthority scheme text goesOn = .ok authority) :
    (∀ c ∈ authority.username.toList, isKept escapedInUserinfo c = true) ∧
      (∀ c ∈ authority.password.toList, isKept escapedInUserinfo c = true) ∧
      IsHost authority.host.toList ∧
      ∀ port, authority.port = some port → port ≤ 65535 ∧ defaultPort? scheme ≠ some port := by
  unfold readAuthority at h
  split at h
  all_goals
    obtain ⟨-, h⟩ := ok_of_unless h
    dsimp only at h
    obtain ⟨host, hhost, h⟩ := ok_of_bind h
    obtain ⟨-, h⟩ := ok_of_unless h
    obtain ⟨port, hport, h⟩ := ok_of_bind h
    cases h
    exact ⟨fun c hc => isPartSet_userinfo.kept_of_mem hc,
      fun c hc => isPartSet_userinfo.kept_of_mem hc, host_of_read special hhost,
      fun p hp => port_of_read hport p hp⟩

private theorem path_of_read (text : List Char) :
    ∃ segments, segments ≠ [] ∧ pathAfterAuthority true text = .segments segments ∧
      ∀ s ∈ segments, IsSegment s := by
  have read {rest : List Char} (h : '\\' ∉ rest) : segmentsOf rest ≠ [] ∧
      ∀ s ∈ segmentsOf rest, IsSegment s := by
    refine ⟨enterAll_ne_nil [] ?_, fun s hs => isSegment_of_mem_segmentsOf h hs⟩
    simpa using Text.split_ne_nil '/' rest
  have noBackslash := not_mem_normalSlashes text
  unfold pathAfterAuthority
  split
  · refine ⟨[""], by simp, rfl, ?_⟩
    intro s hs
    rw [List.mem_singleton] at hs
    subst hs
    exact isSegment_empty
  · next rest heq =>
    rw [heq, List.mem_cons, not_or] at noBackslash
    obtain ⟨hne, hall⟩ := read noBackslash.2
    exact ⟨_, hne, rfl, hall⟩
  · obtain ⟨hne, hall⟩ := read noBackslash
    exact ⟨_, hne, rfl, hall⟩

theorem isWeb_of_withAuthority {scheme : String} {text : List Char} {goesOn : Bool} {url : Url}
    (web : scheme = "http" ∨ scheme = "https")
    (h : withAuthority scheme text goesOn = .ok url) :
    url.scheme = scheme ∧ ∃ host segments, segments ≠ [] ∧ url.IsWeb host segments := by
  have special : isSpecial scheme = true := by
    rcases web with h | h <;> rw [h] <;> decide
  unfold withAuthority at h
  obtain ⟨authority, hauthority, h⟩ := ok_of_bind h
  cases h
  obtain ⟨username, password, host, port⟩ := authority_of_read special hauthority
  obtain ⟨segments, hne, hpath, hsegments⟩ := path_of_read
    (authority.rest ++ text.dropWhile fun c => !isSlash c)
  refine ⟨rfl, authority.host, segments, hne, ?_⟩
  exact {
    scheme := web
    username := username
    password := password
    hasHost := rfl
    isHost := host
    port := port
    hasPath := by simpa [special] using hpath
    isSegment := hsegments
    query := fun _ hq => nomatch hq
    fragment := fun _ hf => nomatch hf
    unguarded := rfl }

private theorem scheme_of_fileOnHost {text : List Char} {url : Url}
    (h : fileOnHost text = .ok url) :
    url.scheme = "file" := by
  unfold fileOnHost at h
  dsimp only at h
  split at h
  · cases h
    rfl
  split at h
  · cases h
    rfl
  · obtain ⟨host, -, h⟩ := ok_of_bind h
    cases h
    rfl

private theorem scheme_of_fileUrl {text : List Char} {url : Url} (h : fileUrl text = .ok url) :
    url.scheme = "file" := by
  unfold fileUrl at h
  split at h
  · cases h
    rfl
  split at h
  · cases h
    rfl
  · exact scheme_of_fileOnHost h

private theorem scheme_of_readMain {scheme : String} {text : List Char} {goesOn : Bool} {url : Url}
    (h : readMain scheme text goesOn = .ok url) : url.scheme = scheme := by
  have fromAuthority {text : List Char} (h : withAuthority scheme text goesOn = .ok url) :
      url.scheme = scheme := by
    unfold withAuthority at h
    obtain ⟨authority, -, h⟩ := ok_of_bind h
    cases h
    rfl
  unfold readMain at h
  split at h
  · next hfile => exact (scheme_of_fileUrl h).trans hfile.symm
  · dsimp only at h
    split at h
    · exact fromAuthority h
    split at h
    · exact fromAuthority h
    · cases h
      rfl
    · cases h
      rfl

theorem isWeb_of_parse {text : String} {url : Url} (h : parse text = .ok url)
    (web : url.scheme = "http" ∨ url.scheme = "https") :
    ∃ host segments, segments ≠ [] ∧ url.IsWeb host segments := by
  unfold parse at h
  split at h
  · exact nomatch h
  · next scheme rest _ =>
    dsimp only at h
    obtain ⟨main, hmain, h⟩ := ok_of_bind h
    cases h
    have hscheme := scheme_of_readMain hmain
    have given : scheme = "http" ∨ scheme = "https" := hscheme ▸ web
    have special : isSpecial scheme = true := by
      rcases given with h | h <;> rw [h] <;> decide
    have notFile : scheme ≠ "file" := by
      rcases given with h | h <;> rw [h] <;> decide
    rw [readMain, if_neg notFile] at hmain
    simp only [special, if_true] at hmain
    obtain ⟨-, host, segments, hne, parts⟩ := isWeb_of_withAuthority given hmain
    refine ⟨host, segments, hne, { parts with query := fun query hquery c hc => ?_
                                              fragment := fun fragment hfragment c hc => ?_ }⟩
    · simp only [special, if_true, Option.map_eq_some_iff] at hquery
      obtain ⟨text, -, rfl⟩ := hquery
      exact isPartSet_specialQuery.kept_of_mem hc
    · simp only [Option.map_eq_some_iff] at hfragment
      obtain ⟨text, -, rfl⟩ := hfragment
      exact isPartSet_fragment.kept_of_mem hc

end ObjectStorage.Url
