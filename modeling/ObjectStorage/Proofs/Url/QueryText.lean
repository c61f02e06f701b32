import ObjectStorage.Http.Uri
import ObjectStorage.Proofs.Url.ReadBack

/-!
# The query of an address on the wire

In the text of an address that was read, the first question mark begins the query and the first
number sign the fragment, whatever the scheme is.  So the target of a request has the query of its
address, and that of a web address has its path too.
-/

namespace ObjectStorage.Url

open Percent

/-! ## Characters before the query -/

/-- Whether the character begins neither a query nor a fragment. -/
def isFront (c : Char) : Bool := c ≠ '?' && c ≠ '#'

def IsFront (text : String) : Prop := ∀ c ∈ text.toList, isFront c = true

private theorem isFront_append {first second : String} (h : IsFront first)
    (hsecond : IsFront second) : IsFront (first ++ second) := by
  intro c hc
  rw [String.toList_append] at hc
  rcases List.mem_append.mp hc with hc | hc
  · exact h c hc
  · exact hsecond c hc

theorem isFront_empty : IsFront "" := by
  intro c hc
  exact nomatch hc

section

variable {text : List Char}

theorem isFront_escapedInPath (text : List Char) : IsFront (escaped escapedInPath text) := by
  intro c hc
  exact forall_kept (P := fun c => isFront c = true) (by decide +kernel)
    (isPartSet_path.kept_of_mem hc)

private theorem isFront_escapedInUserinfo (text : List Char) :
    IsFront (escaped escapedInUserinfo text) := by
  intro c hc
  exact forall_kept (P := fun c => isFront c = true) (by decide +kernel)
    (isPartSet_userinfo.kept_of_mem hc)

private theorem isControl_beyond (byte : UInt8) (h : 128 ≤ byte.toNat) : isControl byte = true := by
  simp only [isControl, Bool.or_eq_true, decide_eq_true_eq, UInt8.le_iff_toNat_le]
  right
  simp only [UInt8.reduceToNat]
  omega

theorem isFront_escaped_control (h : ∀ c ∈ text, isFront c = true) :
    IsFront (escaped isControl text) := by
  intro c hc
  rw [escaped, String.toList_ofList] at hc
  rcases mem_encode isControl_beyond hc with ⟨hc, -⟩ | hc
  · exact h c (mem_of_mem_content hc)
  · exact forall_escapeChar (P := fun c => isFront c = true)
      (Text.forall_of_all (by decide)) hc

/-! ## Hosts and ports -/

theorem isFront_of_isHost {host : String} (h : IsHost host.toList) : IsFront host := by
  intro c hc
  have inHost := h.isInHost_of_mem hc
  have ne (d : Char) (hd : isInHost d = false) : c ≠ d := by
    rintro rfl
    rw [hd] at inHost
    exact nomatch inHost
  simp [isFront, ne '?' (by decide), ne '#' (by decide)]

private theorem isFront_of_readHost {scheme host : String} (h : readHost scheme text = .ok host) :
    IsFront host := by
  unfold readHost at h
  split at h
  · split at h
    · exact nomatch h
    · exact isFront_of_isHost (isHost_of_special h)
  unfold Host.other at h
  split at h
  · exact isFront_of_isHost (isHost_ipv6 h)
  split at h
  · exact nomatch h
  · next allowed =>
    cases h
    refine isFront_escaped_control fun c hc => ?_
    have ne (d : Char) (hd : Host.isForbiddenInHost d = true) : c ≠ d := by
      rintro rfl
      exact allowed (List.any_eq_true.mpr ⟨c, hc, hd⟩)
    simp [isFront, ne '?' (by decide), ne '#' (by decide)]

private theorem isFront_portText (url : Url) : IsFront url.portText := by
  intro c hc
  rcases mem_portText hc with rfl | digit
  · decide
  · have ne (d : Char) (hd : d.toNat < 48 ∨ 57 < d.toNat) : c ≠ d := by
      rintro rfl
      omega
    simp [isFront, ne '?' (by decide), ne '#' (by decide)]

/-! ## Paths -/

theorem isFront_pathText {segments : List String} (h : ∀ s ∈ segments, IsFront s) :
    IsFront (Path.segments segments).text := by
  intro c hc
  rw [toList_pathText, pathChars, List.mem_flatMap] at hc
  obtain ⟨s, hs, hc⟩ := hc
  rcases List.mem_cons.mp hc with rfl | hc
  · decide
  · exact h s hs c hc

theorem isFront_segmentsOf (text : List Char) : ∀ s ∈ segmentsOf text, IsFront s := by
  intro s hs
  rcases mem_enterAll hs with hs | rfl | ⟨hs, -⟩
  · exact nomatch hs
  · exact isFront_empty
  · obtain ⟨piece, -, rfl⟩ := List.mem_map.mp hs
    exact isFront_escapedInPath piece

private theorem isFront_pathAfterAuthority (isSpecial : Bool) (text : List Char) :
    IsFront (pathAfterAuthority isSpecial text).text := by
  unfold pathAfterAuthority
  split
  · refine isFront_pathText fun s hs => ?_
    cases isSpecial
    · exact nomatch hs
    · rw [List.mem_singleton.mp hs]
      exact isFront_empty
  · exact isFront_pathText (isFront_segmentsOf _)
  · exact isFront_pathText (isFront_segmentsOf _)

private theorem isFront_drive {letter : Char} (h : letter.isAlpha = true) :
    IsFront (drive letter) := by
  intro c hc
  rw [drive, String.toList_ofList] at hc
  have ne (d : Char) (hd : d.isAlpha = false) : letter ≠ d := by
    rintro rfl
    rw [h] at hd
    exact nomatch hd
  simp only [List.mem_cons, List.not_mem_nil, or_false] at hc
  rcases hc with rfl | rfl
  · simp [isFront, ne '?' (by decide), ne '#' (by decide)]
  · decide

theorem isAlpha_of_driveLetter {segment : String} {letter : Char}
    (h : driveLetter? segment = some letter) : letter.isAlpha = true := by
  unfold driveLetter? at h
  split at h
  · next first mark _ =>
    split at h
    · next hc =>
      cases h
      simp only [Bool.and_eq_true] at hc
      exact hc.1
    · exact nomatch h
  · exact nomatch h

private theorem isAlpha_of_cutDrive {rest : List Char} {letter : Char}
    (h : cutDrive? text = some (letter, rest)) : letter.isAlpha = true := by
  unfold cutDrive? at h
  split at h
  · exact nomatch h
  split at h
  · split at h
    · next hc =>
      cases h
      simp only [Bool.and_eq_true] at hc
      exact hc.1.1
    · exact nomatch h
  · exact nomatch h

private theorem isFront_fileEnter {isLast : Bool} {path : FilePath}
    (h : ∀ s ∈ path.segments, IsFront s) :
    ∀ s ∈ (FilePath.enter escapedInPath isLast path text).segments, IsFront s := by
  have entered {segments : List String} (h : ∀ s ∈ segments, IsFront s) :
      ∀ s ∈ enter isLast segments (escaped escapedInPath text), IsFront s := by
    intro s hs
    rcases mem_enter hs with hs | rfl | ⟨rfl, -⟩
    · exact h s hs
    · exact isFront_empty
    · exact isFront_escapedInPath text
  unfold FilePath.enter
  dsimp only
  split
  · exact entered h
  split
  · next letter rest hdrive =>
    intro s hs
    simp only [List.mem_cons, List.not_mem_nil, or_false] at hs
    rcases hs with rfl | rfl
    · exact isFront_drive (isAlpha_of_cutDrive hdrive)
    · exact isFront_escapedInPath rest
  split
  · next letter hdrive =>
    intro s hs
    rw [List.mem_singleton.mp hs]
    exact isFront_drive (isAlpha_of_driveLetter hdrive)
  · exact entered fun s hs => nomatch hs

private theorem isFront_fileEnterAll {texts : List (List Char)} {path : FilePath}
    (h : ∀ s ∈ path.segments, IsFront s) :
    ∀ s ∈ (FilePath.enterAll escapedInPath path texts).segments, IsFront s := by
  induction texts generalizing path with
  | nil => exact h
  | cons text rest ih =>
      cases rest with
      | nil => exact isFront_fileEnter h
      | cons next rest => exact ih (isFront_fileEnter h)

private theorem mem_of_mem_dropEmpty {segments : List String} {s : String}
    (h : s ∈ FilePath.dropEmpty segments) : s ∈ segments := by
  fun_induction FilePath.dropEmpty segments with
  | case1 next rest ih => exact List.mem_cons_of_mem _ (ih h)
  | case2 => exact h

/-! ## Whole addresses -/

/-- No part before the query begins a query or a fragment. -/
structure IsCut (url : Url) : Prop where
  scheme : IsFront url.scheme
  username : IsFront url.username
  password : IsFront url.password
  host : ∀ host, url.host = some host → IsFront host
  path : IsFront url.path.text

variable {scheme : String} {url : Url}

private theorem isCut_fileAt {host : String} (h : IsFront host) (text : List Char) :
    IsCut (fileAt host text) where
  scheme c hc := by
    have : ∀ c ∈ "file".toList, isFront c = true := Text.forall_of_all (by decide)
    exact this c hc
  username := isFront_empty
  password := isFront_empty
  host read hread := by
    cases hread
    split
    · exact isFront_empty
    · exact h
  path := isFront_pathText fun s hs =>
    isFront_fileEnterAll (fun _ hs => absurd hs List.not_mem_nil) s (mem_of_mem_dropEmpty hs)

private theorem isCut_fileUrl (h : fileUrl text = .ok url) : IsCut url := by
  unfold fileUrl at h
  split at h
  · cases h
    exact isCut_fileAt isFront_empty _
  split at h
  · cases h
    exact isCut_fileAt isFront_empty _
  unfold fileOnHost at h
  dsimp only at h
  split at h
  · cases h
    exact isCut_fileAt isFront_empty _
  split at h
  · cases h
    exact isCut_fileAt isFront_empty _
  · obtain ⟨host, hhost, h⟩ := ok_of_bind h
    cases h
    refine isCut_fileAt ?_ _
    split
    · exact isFront_empty
    · exact isFront_of_isHost (isHost_of_special hhost)

private theorem isFront_of_readAuthority {goesOn : Bool} {authority : Authority}
    (h : readAuthority scheme text goesOn = .ok authority) :
    IsFront authority.username ∧ IsFront authority.password ∧ IsFront authority.host := by
  unfold readAuthority at h
  split at h
  all_goals
    obtain ⟨-, h⟩ := ok_of_unless h
    dsimp only at h
    obtain ⟨host, hhost, h⟩ := ok_of_bind h
    obtain ⟨-, h⟩ := ok_of_unless h
    obtain ⟨port, -, h⟩ := ok_of_bind h
    cases h
    exact ⟨isFront_escapedInUserinfo _, isFront_escapedInUserinfo _, isFront_of_readHost hhost⟩

private theorem isCut_withAuthority {goesOn : Bool} (hscheme : IsFront scheme)
    (h : withAuthority scheme text goesOn = .ok url) : IsCut url := by
  unfold withAuthority at h
  obtain ⟨authority, hauthority, h⟩ := ok_of_bind h
  cases h
  obtain ⟨username, password, host⟩ := isFront_of_readAuthority hauthority
  exact {
    scheme := hscheme
    username := username
    password := password
    host := fun _ hread => by
      cases hread
      exact host
    path := isFront_pathAfterAuthority _ _ }

private theorem isCut_withoutAuthority {path : Path} (hscheme : IsFront scheme)
    (h : IsFront path.text) : IsCut (withoutAuthority scheme path) where
  scheme := hscheme
  username := isFront_empty
  password := isFront_empty
  host _ hread := nomatch hread
  path := h

theorem isCut_readMain {goesOn : Bool} (hscheme : IsFront scheme)
    (hmain : ∀ c ∈ text, isFront c = true) (h : readMain scheme text goesOn = .ok url) :
    IsCut url := by
  unfold readMain at h
  split at h
  · exact isCut_fileUrl h
  dsimp only at h
  split at h
  · exact isCut_withAuthority hscheme h
  split at h
  · exact isCut_withAuthority hscheme h
  · cases h
    exact isCut_withoutAuthority hscheme (isFront_pathText (isFront_segmentsOf _))
  · cases h
    exact isCut_withoutAuthority hscheme
      (isFront_escaped_control fun c hc => hmain c (mem_of_mem_content hc))

private theorem isFront_asciiLower (h : ∀ c ∈ text, isFront c = true) :
    IsFront (Text.asciiLower (String.ofList text)) := by
  intro c hc
  simp only [Text.asciiLower, String.toList_ofList, List.mem_map] at hc
  obtain ⟨d, hd, rfl⟩ := hc
  split
  · next upper =>
    have small : d.toNat ≤ 90 ∧ 65 ≤ d.toNat := by
      simp only [Text.isAsciiUpper, Bool.and_eq_true, decide_eq_true_eq] at upper
      omega
    have letters : ∀ n ≤ 90, 65 ≤ n → isFront (Char.ofNat (n + 32)) = true := by decide
    exact letters d.toNat small.1 small.2
  · exact h d hd

theorem isFront_of_isSchemeChar {c : Char} (h : isSchemeChar c = true) : isFront c = true := by
  have ne (d : Char) (hd : isSchemeChar d = false) : c ≠ d := by
    rintro rfl
    rw [h] at hd
    exact nomatch hd
  simp [isFront, ne '?' (by decide), ne '#' (by decide)]

private theorem isFront_of_readScheme {rest : List Char}
    (h : readScheme? text = some (scheme, rest)) :
    IsFront scheme := by
  unfold readScheme? at h
  split at h
  · split at h
    · split at h
      · next c others _ hc =>
        cases h
        simp only [Bool.and_eq_true, List.all_eq_true] at hc
        refine isFront_asciiLower fun d hd => ?_
        rcases List.mem_cons.mp hd with rfl | hd
        · exact isFront_of_isSchemeChar (by simp [isSchemeChar, Char.isAlphanum, hc.1])
        · exact isFront_of_isSchemeChar (hc.2 d hd)
      · exact nomatch h
    · exact nomatch h
  · exact nomatch h

private theorem cutAt_cases (separator : Char) (text : List Char) :
    cutAt separator text = (text, none) ∧ separator ∉ text ∨
      ∃ before after, text = before ++ separator :: after ∧ separator ∉ before ∧
        cutAt separator text = (before, some after) := by
  by_cases h : separator ∈ text
  · obtain ⟨before, after, rfl, hbefore⟩ := List.eq_append_cons_of_mem h
    exact .inr ⟨before, after, rfl, hbefore, cutAt_append hbefore after⟩
  · exact .inl ⟨cutAt_of_not_mem h, h⟩

private theorem not_mem_query {escapes : UInt8 → Bool} (set : IsPartSet escapes) {query : List Char}
    (h : '#' ∉ query) : '#' ∉ (escaped escapes query).toList := by
  intro hc
  rcases set.origin_of_mem hc with hc | hc
  · exact h hc
  · exact absurd hc (by decide)

theorem isCut_of_parse {text : String} (h : parse text = .ok url) :
    IsCut url ∧ ∀ query, url.query = some query → '#' ∉ query.toList := by
  unfold parse at h
  split at h
  · exact nomatch h
  next scheme rest hscheme =>
  dsimp only at h
  obtain ⟨main, hmain, h⟩ := ok_of_bind h
  cases h
  have noHash : '#' ∉ (cutAt '#' rest).1 := by
    rcases cutAt_cases '#' rest with ⟨heq, hno⟩ | ⟨before, after, -, hno, heq⟩ <;> rwa [heq]
  rcases cutAt_cases '?' (cutAt '#' rest).1 with ⟨heq, noMark⟩ | ⟨before, after, hrest, noMark, heq⟩
  · have front : ∀ c ∈ (cutAt '#' rest).1, isFront c = true := by
      intro c hc
      have hash : c ≠ '#' := fun hd => noHash (hd ▸ hc)
      have mark : c ≠ '?' := fun hd => noMark (hd ▸ hc)
      simp [isFront, hash, mark]
    rw [heq] at hmain ⊢
    have cut := isCut_readMain (isFront_of_readScheme hscheme) front hmain
    exact ⟨{ cut with }, fun query hquery => nomatch hquery⟩
  · rw [hrest] at noHash
    simp only [List.mem_append, List.mem_cons, not_or] at noHash
    have front : ∀ c ∈ before, isFront c = true := by
      intro c hc
      have hash : c ≠ '#' := fun hd => noHash.1 (hd ▸ hc)
      have mark : c ≠ '?' := fun hd => noMark (hd ▸ hc)
      simp [isFront, hash, mark]
    rw [heq] at hmain ⊢
    have cut := isCut_readMain (isFront_of_readScheme hscheme) front hmain
    refine ⟨{ cut with }, fun query hquery => ?_⟩
    cases hquery
    split
    · exact not_mem_query isPartSet_specialQuery noHash.2.2
    · exact not_mem_query isPartSet_query noHash.2.2

/-! ## The query of a text -/

/-- What stands after the first question mark, up to the fragment. -/
def queryOf (text : List Char) : Option String :=
  (Text.cut? '?' (text.takeWhile (· != '#'))).map fun parts => String.ofList parts.2

theorem queryOf_append {front : List Char} (h : ∀ c ∈ front, isFront c = true)
    (rest : List Char) : queryOf (front ++ rest) = queryOf rest := by
  induction front with
  | nil => rfl
  | cons c front ih =>
      have hc := h c List.mem_cons_self
      simp only [isFront, Bool.and_eq_true, decide_eq_true_eq] at hc
      rw [← ih fun d hd => h d (List.mem_cons_of_mem _ hd)]
      simp only [queryOf, List.cons_append, List.takeWhile_cons]
      rw [if_pos (by simpa using hc.2), Text.cut?, if_neg hc.1]
      cases Text.cut? '?' ((front ++ rest).takeWhile (· != '#')) <;> rfl

theorem IsCut.queryOf_text (cut : IsCut url)
    (h : ∀ query, url.query = some query → '#' ∉ query.toList) :
    queryOf url.text.toList = url.query := by
  have userinfo : IsFront url.userinfoText := by
    unfold userinfoText
    split
    · exact isFront_empty
    split
    · exact isFront_append cut.username (Text.forall_of_all (by decide))
    · exact isFront_append
        (isFront_append (isFront_append cut.username (Text.forall_of_all (by decide))) cut.password)
        (Text.forall_of_all (by decide))
  have authority : IsFront url.authorityText := by
    unfold authorityText
    split
    · next host hhost =>
      exact isFront_append (isFront_append (isFront_append (Text.forall_of_all (by decide)) userinfo)
        (cut.host host hhost)) (isFront_portText url)
    · split
      · exact Text.forall_of_all (by decide)
      · exact isFront_empty
  have front : IsFront (url.scheme ++ ":" ++ url.authorityText ++ url.path.text) :=
    isFront_append
      (isFront_append (isFront_append cut.scheme (Text.forall_of_all (by decide))) authority)
      cut.path
  have tail : url.fragmentText.toList.takeWhile (· != '#') = [] := by
    unfold fragmentText
    split
    · simp
    · rfl
  rw [text, String.append_assoc, String.toList_append, queryOf_append front, String.toList_append]
  unfold queryOf queryText
  split
  · next query hquery =>
    have kept : ∀ c ∈ query.toList, (c != '#') = true := fun c hc => by
      have : c ≠ '#' := fun hd => h query hquery (hd ▸ hc)
      simpa using this
    simp [List.takeWhile_append_of_pos kept, tail, Text.cut?, hquery]
  · next hquery => simp [tail, Text.cut?, hquery]

end

end ObjectStorage.Url

namespace ObjectStorage.Http.Uri

open Url (queryOf queryOf_append isFront isFront_of_isSchemeChar)

private theorem query_of_readPathAndQuery {text : List Char} {path : String} {query : Option String}
    (h : readPathAndQuery text = .ok (path, query)) : query = queryOf text := by
  unfold readPathAndQuery at h
  unfold queryOf
  cases hcut : Text.cut? '?' (text.takeWhile (· != '#'))
  all_goals
    simp only [hcut] at h
    split at h
    · cases h
      rfl
    · exact nomatch h

theorem query_of_parse {text : String} {uri : Uri} (h : parse text = .ok uri) :
    uri.query = queryOf text.toList := by
  unfold parse at h
  obtain ⟨-, h⟩ := ok_of_unless h
  obtain ⟨-, h⟩ := ok_of_unless h
  obtain ⟨⟨scheme, rest⟩, hscheme, h⟩ := ok_of_bind h
  obtain ⟨-, -, h⟩ := ok_of_bind h
  have beforeRest : queryOf text.toList = queryOf rest := by
    unfold readScheme at hscheme
    dsimp only at hscheme
    split at hscheme
    · next after hafter =>
      split at hscheme
      · cases hscheme
        have front : ∀ c ∈ text.toList.takeWhile isSchemeChar ++ [':', '/', '/'],
            isFront c = true := by
          intro c hc
          rcases List.mem_append.mp hc with hc | hc
          · exact isFront_of_isSchemeChar (List.mem_takeWhile_imp hc)
          · have marks : ∀ c ∈ [':', '/', '/'], isFront c = true :=
              Text.forall_of_all (by decide)
            exact marks c hc
        rw [← queryOf_append front rest, List.append_assoc, List.cons_append, List.cons_append,
          List.cons_append, List.nil_append, ← hafter, List.takeWhile_append_dropWhile]
      · exact nomatch hscheme
    · cases hscheme
      rfl
  have beforeAfter : queryOf rest = queryOf (rest.dropWhile fun c => !isAuthorityEnd c) := by
    have authority : ∀ c ∈ rest.takeWhile fun c => !isAuthorityEnd c, isFront c = true := by
      intro c hc
      have := List.mem_takeWhile_imp hc
      simp only [isAuthorityEnd, Bool.not_eq_true', Bool.or_eq_false_iff,
        decide_eq_false_iff_not] at this
      simp [isFront, this.1.2, this.2]
    rw [← queryOf_append authority (rest.dropWhile fun c => !isAuthorityEnd c),
      List.takeWhile_append_dropWhile]
  rw [beforeRest, beforeAfter]
  cases scheme with
  | none =>
      dsimp only at h
      split at h
      · next hempty =>
        cases h
        rw [List.isEmpty_iff.mp hempty]
        rfl
      · exact nomatch h
  | some scheme =>
      dsimp only at h
      obtain ⟨-, h⟩ := ok_of_unless h
      obtain ⟨⟨path, query⟩, hread, h⟩ := ok_of_bind h
      cases h
      exact query_of_readPathAndQuery hread

/-! ## The path of a web address -/

section

open Url (IsWeb pathChars tailChars)

variable {url : Url} {host : String} {segments : List String}

private theorem readScheme_of_web (web : IsWeb url host segments) :
    readScheme url.text.toList = .ok (some url.scheme, url.authorityChars host ++
      (pathChars segments ++ tailChars '?' url.query ++ tailChars '#' url.fragment)) := by
  have scheme : ∀ c ∈ url.scheme.toList, isSchemeChar c = true := by
    have letters : ∀ c ∈ "http".toList ++ "https".toList, isSchemeChar c = true :=
      Text.forall_of_all (by decide)
    intro c hc
    rcases web.scheme with h | h <;> rw [h] at hc
    · exact letters c (List.mem_append_left _ hc)
    · exact letters c (List.mem_append_right _ hc)
  have short : url.scheme.toList.length ≤ 64 := by
    rcases web.scheme with h | h <;> rw [h] <;> decide
  have mark : isSchemeChar ':' = false := by decide
  unfold readScheme
  rw [web.toList_text, List.takeWhile_append_of_pos scheme, List.dropWhile_append_of_pos scheme,
    List.takeWhile_cons_of_neg (by simp [mark]), List.dropWhile_cons_of_neg (by simp [mark])]
  simp [short]

private theorem isPathChar_of_mem (web : IsWeb url host segments) :
    ∀ c ∈ pathChars segments, isPathChar c = true := by
  intro c hc
  rcases Url.mem_pathChars web.isSegment hc with rfl | ⟨kept, -⟩
  · decide
  · exact Percent.forall_kept (P := fun c => isPathChar c = true) (by decide +kernel) kept

private theorem isQueryChar_of_mem (web : IsWeb url host segments) :
    ∀ c ∈ (url.query.map String.toList).getD [], isQueryChar c = true := by
  cases hquery : url.query with
  | none => exact nofun
  | some query =>
      exact fun c hc => Percent.forall_kept (P := fun c => isQueryChar c = true) (by decide +kernel)
        (web.query query hquery c hc)

theorem readPathAndQuery_of_web (web : IsWeb url host segments) (rooted : segments ≠ []) :
    readPathAndQuery (pathChars segments ++ tailChars '?' url.query ++
      tailChars '#' url.fragment) = .ok (url.path.text, url.query) := by
  have main : ∀ c ∈ pathChars segments, c ≠ '?' ∧ c ≠ '#' := by
    intro c hc
    constructor
    all_goals
      rintro rfl
      rcases Url.mem_pathChars web.isSegment hc with h | h
      · exact absurd h (by decide)
      · exact absurd h.1 (by decide +kernel)
  have kept : ∀ c ∈ pathChars segments ++ tailChars '?' url.query, (c != '#') = true := by
    intro c hc
    have : c ≠ '#' := by
      rcases List.mem_append.mp hc with hc | hc
      · exact (main c hc).2
      · exact (web.mem_query hc).2
    simpa using this
  have fragment : (tailChars '#' url.fragment).takeWhile (· != '#') = [] := by
    cases url.fragment <;> simp [tailChars]
  have nonempty : (pathChars segments).isEmpty = false := by
    cases segments with
    | nil => exact absurd rfl rooted
    | cons first rest => rfl
  have mark : '?' ∉ pathChars segments := fun hc => (main '?' hc).1 rfl
  have path : url.path.text = String.ofList (pathChars segments) := by
    rw [web.hasPath, ← String.toList_inj, Url.toList_pathText, String.toList_ofList]
  have pathRead := List.all_eq_true.mpr (isPathChar_of_mem web)
  have queryRead := List.all_eq_true.mpr (isQueryChar_of_mem web)
  unfold readPathAndQuery
  rw [List.takeWhile_append_of_pos kept, fragment, List.append_nil, path]
  cases hquery : url.query with
  | none =>
      simp only [tailChars, List.append_nil, Text.cut?_eq_none mark]
      simp [pathRead, nonempty]
  | some query =>
      rw [hquery] at queryRead
      simp only [tailChars, Text.cut?_append mark]
      simp only [Option.map_some, Option.getD_some] at queryRead
      simp [pathRead, queryRead, nonempty]

theorem parse_of_web (web : IsWeb url host segments) (rooted : segments ≠ []) :
    parse url.text =
      if maxLength < (Utf8.ofText url.text).length then .error .tooLong
      else (checkAuthority (url.authorityChars host)).map fun _ =>
        ⟨some url.scheme, String.ofList (url.authorityChars host), url.path.text, url.query⟩ := by
  have some : url.text.toList.isEmpty = false := by
    rw [web.toList_text]
    cases url.scheme.toList <;> rfl
  have authority : ∀ c ∈ url.authorityChars host, (!isAuthorityEnd c) = true := by
    intro c hc
    have inside := web.mem_authorityChars hc
    cases hend : isAuthorityEnd c with
    | false => rfl
    | true =>
        simp only [isAuthorityEnd, Bool.or_eq_true, decide_eq_true_eq] at hend
        rcases hend with (rfl | rfl) | rfl <;> exact absurd inside (by decide)
  have ends : ∃ rest, pathChars segments ++ tailChars '?' url.query ++
      tailChars '#' url.fragment = '/' :: rest := by
    cases segments with
    | nil => exact absurd rfl rooted
    | cons first rest => exact ⟨_, rfl⟩
  have slash : isAuthorityEnd '/' = true := by decide
  have nonempty := List.isEmpty_eq_false_iff.mpr web.authorityChars_ne_nil
  unfold parse
  by_cases long : maxLength < (Utf8.ofText url.text).length
  · rw [if_pos long, if_pos long]
    rfl
  rw [if_neg long, if_neg long]
  simp only [some, readScheme_of_web web, bind, Except.bind, pure, Except.pure,
    List.takeWhile_append_of_pos authority, List.dropWhile_append_of_pos authority]
  obtain ⟨rest, shape⟩ := ends
  have tail := readPathAndQuery_of_web web rooted
  rw [shape] at tail ⊢
  rw [List.takeWhile_cons_of_neg (by simp [slash]), List.dropWhile_cons_of_neg (by simp [slash]),
    List.append_nil, tail]
  cases checkAuthority (url.authorityChars host) with
  | error fault => rfl
  | ok _ => simp [nonempty, Except.map]

theorem path_of_parse (web : IsWeb url host segments) (rooted : segments ≠ []) {uri : Uri}
    (h : parse url.text = .ok uri) : uri.path = url.path.text := by
  rw [parse_of_web web rooted] at h
  split at h
  · exact nomatch h
  · cases checked : checkAuthority (url.authorityChars host) with
    | error fault =>
        rw [checked] at h
        exact nomatch h
    | ok _ =>
        rw [checked] at h
        cases h
        rfl

end

end ObjectStorage.Http.Uri
