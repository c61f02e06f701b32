import ObjectStorage.Account
import ObjectStorage.Proofs.Address.Names
import ObjectStorage.Proofs.Url.QueryText

/-!
# Accounts beside an account

Switching to another account puts a segment for its name in the place of the last segment of the
path that is not empty.  Which names are read back from that segment is said exactly: dots are
passed over, tabs and line ends are dropped, and a drive is written with a colon.
-/

namespace ObjectStorage

namespace Url

open Percent

variable {scheme name segment : String} {front : List String}

/-! ## Segments of names -/

/-- The bytes that are escaped in a segment that is appended. -/
def appendedSet (scheme : String) : UInt8 → Bool :=
  if isSpecial scheme then escapedInSpecialSegment else escapedInSegment

theorem appendedSet_percent (scheme : String) : appendedSet scheme 37 = true := by
  unfold appendedSet
  split <;> decide

theorem appendedSet_beyond (scheme : String) (byte : UInt8) (h : 128 ≤ byte.toNat) :
    appendedSet scheme byte = true := by
  have control : isControl byte = true := by
    simp only [isControl, Bool.or_eq_true, decide_eq_true_eq, UInt8.le_iff_toNat_le]
    exact .inr (Nat.le_trans (by decide) h)
  have path : escapedInSegment byte = true := by
    simp [escapedInSegment, escapedInPath, escapedInFragment, control]
  unfold appendedSet
  split
  · simp [escapedInSpecialSegment, path]
  · exact path

theorem decode?_empty : decode? "" = some "" := by decide

theorem decode?_appended (scheme : String) (text : List Char) :
    decode? (escaped (appendedSet scheme) text) = some (String.ofList (content text)) :=
  decode?_encode (appendedSet_percent scheme) (appendedSet_beyond scheme) _

theorem decode?_appended_of_clean (scheme : String)
    (clean : ∀ c ∈ name.toList, isTabOrLineEnd c = false) :
    decode? (escaped (appendedSet scheme) name.toList) = some name := by
  rw [decode?_appended, content_of_clean clean, String.ofList_toList]

private theorem clean_of_decode?_appended {text : List Char}
    (h : decode? (escaped (appendedSet scheme) text) = some name) :
    ∀ c ∈ name.toList, isTabOrLineEnd c = false := by
  rw [decode?_appended, Option.some.injEq] at h
  intro c hc
  rw [← h, String.toList_ofList] at hc
  simpa using (List.mem_filter.mp hc).2

private theorem enter_of_decode? (entered : List String) (decoded : decode? segment = some name)
    (notSingle : name ≠ ".") (notDouble : name ≠ "..") :
    enter true entered segment = entered ++ [segment] := by
  have double : isDoubleDot segment ≠ true := fun h => by
    rw [Address.decode?_of_isDoubleDot h] at decoded
    exact notDouble (Option.some.inj decoded).symm
  have single : isSingleDot segment ≠ true := fun h => by
    rw [Address.decode?_of_isSingleDot h] at decoded
    exact notSingle (Option.some.inj decoded).symm
  rw [enter, if_neg double, if_neg single]

/-! ## Drives -/

theorem cutDrive?_of_clean {text : List Char} (clean : ∀ c ∈ text, isTabOrLineEnd c = false) :
    cutDrive? text = none := by
  unfold cutDrive?
  split
  · rfl
  next letter rest begins =>
  split
  · next gap others goesOn =>
    have inRest : gap ∈ rest.dropWhile isTabOrLineEnd := by simp [goesOn]
    have inText : gap ∈ text.dropWhile isTabOrLineEnd := by
      rw [begins]
      exact List.mem_cons_of_mem _ ((List.dropWhile_sublist _).subset inRest)
    simp [clean gap ((List.dropWhile_sublist _).subset inText)]
  · rfl

private theorem eq_of_driveLetter? {letter : Char} (h : driveLetter? segment = some letter) :
    segment = drive letter ∨ segment = String.ofList [letter, '|'] := by
  unfold driveLetter? at h
  split at h
  · next first mark shape =>
    split at h
    · next hc =>
      cases h
      simp only [Bool.and_eq_true, Bool.or_eq_true, decide_eq_true_eq] at hc
      rw [← String.ofList_toList (s := segment), shape]
      rcases hc.2 with rfl | rfl
      · exact .inl rfl
      · exact .inr rfl
    · exact nomatch h
  · exact nomatch h

/-- Whether the character is written as it is in every segment that is appended. -/
def isWordOrMark (c : Char) : Bool := c.isAlphanum || "_:|".toList.contains c

private theorem kept_of_isWordOrMark (scheme : String) {c : Char} (h : isWordOrMark c = true) :
    isKept (appendedSet scheme) c = true := by
  have small : c.toNat < 128 := by
    rw [isWordOrMark, Bool.or_eq_true, List.contains_iff_mem] at h
    rcases h with h | h
    · exact Text.ascii_of_isAlphanum h
    · have marks : ∀ d ∈ "_:|".toList, d.toNat < 128 := Text.forall_of_all (by decide)
      exact marks c h
  have check : ∀ n < 128, isWordOrMark (Char.ofNat n) = true →
      isKept escapedInSpecialSegment (Char.ofNat n) = true ∧
        isKept escapedInSegment (Char.ofNat n) = true := by decide +kernel
  have kept := check c.toNat small
  rw [Char.ofNat_toNat] at kept
  unfold appendedSet
  split
  · exact (kept h).1
  · exact (kept h).2

theorem clean_of_isWordOrMark {c : Char} (h : isWordOrMark c = true) :
    isTabOrLineEnd c = false := by
  rw [isTabOrLineEnd]
  by_contra blank
  simp only [Bool.or_eq_true, decide_eq_true_eq, Bool.not_eq_false] at blank
  rcases blank with (rfl | rfl) | rfl <;> exact absurd h (by decide)

theorem escaped_of_isWordOrMark (scheme : String) {text : List Char}
    (h : ∀ c ∈ text, isWordOrMark c = true) :
    escaped (appendedSet scheme) text = String.ofList text := by
  rw [escaped, content_of_clean fun c hc => clean_of_isWordOrMark (h c hc),
    encode_of_kept fun c hc => kept_of_isWordOrMark scheme (h c hc)]

theorem isWordOrMark_of_drive {letter mark : Char} (h : letter.isAlpha = true)
    (hmark : mark = ':' ∨ mark = '|') : ∀ c ∈ [letter, mark], isWordOrMark c = true := by
  intro c hc
  simp only [List.mem_cons, List.not_mem_nil, or_false] at hc
  rcases hc with rfl | rfl
  · simp [isWordOrMark, Char.isAlphanum, h]
  · rcases hmark with rfl | rfl <;> decide

theorem escaped_drive (scheme : String) {letter mark : Char} (h : letter.isAlpha = true)
    (hmark : mark = ':' ∨ mark = '|') :
    escaped (appendedSet scheme) [letter, mark] = String.ofList [letter, mark] :=
  escaped_of_isWordOrMark scheme (isWordOrMark_of_drive h hmark)

theorem decode?_drive {letter mark : Char} (h : letter.isAlpha = true)
    (hmark : mark = ':' ∨ mark = '|') :
    decode? (String.ofList [letter, mark]) = some (String.ofList [letter, mark]) := by
  have clean := fun c hc => clean_of_isWordOrMark (isWordOrMark_of_drive h hmark c hc)
  have decoded := decode?_appended "" [letter, mark]
  rwa [escaped_drive "" h hmark, content_of_clean clean] at decoded

/-! ## The last segment -/

theorem dropEmpty_singleton (segment : String) : FilePath.dropEmpty [segment] = [segment] := by
  simp [FilePath.dropEmpty]

private theorem getLast_dropEmpty (front : List String) (last : String) :
    ∃ rest, FilePath.dropEmpty (front ++ [last]) = rest ++ [last] := by
  induction front with
  | nil => exact ⟨[], dropEmpty_singleton last⟩
  | cons first front ih =>
      by_cases h : first = ""
      · obtain ⟨next, rest, shape⟩ := List.exists_cons_of_ne_nil
          (List.append_ne_nil_of_right_ne_nil front (List.cons_ne_nil last []))
        rw [List.cons_append, h, shape, FilePath.dropEmpty, ← shape]
        exact ih
      · refine ⟨first :: front, ?_⟩
        rw [List.cons_append, FilePath.dropEmpty.eq_def]
        simp [h]

private theorem dropEmpty_of_head {segments : List String} (h : segments.head? ≠ some "") :
    FilePath.dropEmpty segments = segments := by
  unfold FilePath.dropEmpty
  split
  · simp at h
  · rfl

private theorem dropEmpty_ne (segments : List String) (next : String) (rest : List String) :
    FilePath.dropEmpty segments ≠ "" :: next :: rest := by
  fun_induction FilePath.dropEmpty segments with
  | case1 other others ih => exact ih
  | case2 segments other =>
      intro h
      exact other next rest h

theorem last_of_enter (entered : List String) (scheme : String) (text : List Char) :
    ∃ rest last, enter true entered (escaped (appendedSet scheme) text) =
      rest ++ [escaped (appendedSet scheme) last] := by
  have empty : escaped (appendedSet scheme) [] = "" := rfl
  unfold enter
  split
  · exact ⟨ascend entered, [], by simp [empty]⟩
  split
  · exact ⟨entered, [], by simp [empty]⟩
  · exact ⟨entered, text, rfl⟩

private theorem last_of_fileEnter (path : FilePath) (scheme : String) (text : List Char) :
    ∃ rest last, (FilePath.enter (appendedSet scheme) true path text).segments =
      rest ++ [escaped (appendedSet scheme) last] := by
  unfold FilePath.enter
  dsimp only
  split
  · exact last_of_enter path.segments scheme text
  split
  · next letter rest cut => exact ⟨[drive letter], rest, rfl⟩
  split
  · next letter found =>
    refine ⟨[], [letter, ':'], ?_⟩
    rw [escaped_drive scheme (isAlpha_of_driveLetter found) (.inl rfl)]
    rfl
  · exact last_of_enter [] scheme text

private theorem last_of_appendSegment (scheme : String) (segments : List String)
    (text : List Char) :
    ∃ rest last, appendSegment scheme segments text =
      rest ++ [escaped (appendedSet scheme) last] := by
  rw [appendSegment, ← appendedSet]
  split
  · obtain ⟨rest, last, entered⟩ :=
      last_of_fileEnter ⟨if segments = [""] then [] else segments, false⟩ scheme text
    obtain ⟨others, dropped⟩ := getLast_dropEmpty rest (escaped (appendedSet scheme) last)
    exact ⟨others, last, by rw [entered, dropped]⟩
  · exact last_of_enter _ scheme text

/-! ## Names that are read back -/

/-- Whether a name is read back from the segment that is written for it after others. -/
structure ReadsBack (scheme : String) (front : List String) (name : String) : Prop where
  notSingle : name ≠ "."
  notDouble : name ≠ ".."
  clean : ∀ c ∈ name.toList, isTabOrLineEnd c = false
  /-- An empty segment alone before it would be lost. -/
  notEmpty : front ≠ [""]
  /-- In the path of a file, so would an empty first segment. -/
  notEmptyFirst : scheme = "file" → front.head? ≠ some ""
  notDrive : scheme = "file" → front = [] →
    ∀ letter : Char, letter.isAlpha = true → name ≠ String.ofList [letter, '|']

theorem appendSegment_rooted (scheme : String) (front : List String) (text : List Char) :
    appendSegment scheme (rooted front) text =
      if scheme = "file" then
        FilePath.dropEmpty (FilePath.enter (appendedSet scheme) true
          ⟨if front = [""] then [] else front, false⟩ text).segments
      else enter true (if front = [""] then [] else front) (escaped (appendedSet scheme) text) := by
  have base : (if rooted front = [""] then [] else rooted front) =
      if front = [""] then [] else front := by
    by_cases h : front = []
    · rw [h]
      rfl
    · rw [rooted_of_ne_nil h]
  rw [appendSegment, ← appendedSet, base]

private theorem fileEnter_of_ne_nil {escapes : UInt8 → Bool} (h : front ≠ []) (text : List Char) :
    (FilePath.enter escapes true ⟨front, false⟩ text).segments =
      enter true front (escaped escapes text) := by
  simp [FilePath.enter, h]

private theorem ReadsBack.appendSegment_eq (reads : ReadsBack scheme front name) :
    Url.appendSegment scheme (rooted front) name.toList =
      front ++ [escaped (appendedSet scheme) name.toList] := by
  have decoded := decode?_appended_of_clean scheme reads.clean
  have entered (segments : List String) :=
    enter_of_decode? segments decoded reads.notSingle reads.notDouble
  rw [appendSegment_rooted, if_neg reads.notEmpty]
  split
  · next file =>
    -- Only the first segment of the path of a file can be a drive.
    by_cases hfront : front = []
    · subst hfront
      have whole : (FilePath.enter (appendedSet scheme) true ⟨[], false⟩ name.toList).segments =
          [escaped (appendedSet scheme) name.toList] := by
        rw [FilePath.enter, cutDrive?_of_clean reads.clean]
        simp only [ne_eq, not_true_eq_false, if_false]
        split
        · next letter found =>
          rcases eq_of_driveLetter? found with shape | shape
          · rw [shape]
          · have alpha := isAlpha_of_driveLetter found
            rw [shape, decode?_drive alpha (.inr rfl), Option.some.injEq] at decoded
            exact absurd decoded.symm (reads.notDrive file rfl letter alpha)
        · exact entered []
      rw [whole, dropEmpty_singleton]
      rfl
    · rw [fileEnter_of_ne_nil hfront, entered]
      refine dropEmpty_of_head ?_
      rw [List.head?_append_of_ne_nil _ hfront]
      exact reads.notEmptyFirst file
  · exact entered front

private theorem length_enter_nil (segment : String) : (enter true [] segment).length = 1 := by
  unfold enter
  split
  · rfl
  split <;> rfl

private theorem fileEnter_drive (scheme : String) {letter : Char} (h : letter.isAlpha = true) :
    (FilePath.enter (appendedSet scheme) true ⟨[], false⟩ [letter, '|']).segments =
      [drive letter] := by
  have clean := fun c hc => clean_of_isWordOrMark (isWordOrMark_of_drive h (.inr rfl) c hc)
  have found : driveLetter? (String.ofList [letter, '|']) = some letter := by
    simp [driveLetter?, h]
  rw [FilePath.enter, cutDrive?_of_clean clean, escaped_drive scheme h (.inr rfl)]
  simp only [ne_eq, not_true_eq_false, if_false, found]

private theorem readsBack_of_appendSegment (notSingle : name ≠ ".") (notDouble : name ≠ "..")
    (decoded : decode? segment = some name)
    (h : appendSegment scheme (rooted front) name.toList = front ++ [segment]) :
    ReadsBack scheme front name := by
  have clean : ∀ c ∈ name.toList, isTabOrLineEnd c = false := by
    obtain ⟨rest, last, written⟩ := last_of_appendSegment scheme (rooted front) name.toList
    rw [h] at written
    obtain ⟨-, same⟩ := List.append_inj' written rfl
    rw [(List.cons.inj same).1] at decoded
    exact clean_of_decode?_appended decoded
  rw [appendSegment_rooted] at h
  refine ⟨notSingle, notDouble, clean, ?_, ?_, ?_⟩
  · rintro rfl
    -- The empty segment gives way to the one that is appended, and two are needed.
    split at h
    · exact dropEmpty_ne _ _ _ h
    · have := congrArg List.length h
      rw [if_pos rfl, length_enter_nil] at this
      exact absurd this (by simp)
  · rintro file first
    obtain ⟨others, rfl⟩ := List.head?_eq_some_iff.mp first
    obtain ⟨next, rest, shape⟩ := List.exists_cons_of_ne_nil
      (List.append_ne_nil_of_right_ne_nil others (List.cons_ne_nil segment []))
    rw [if_pos file, List.cons_append, shape] at h
    exact dropEmpty_ne _ _ _ h
  · rintro file rfl letter alpha rfl
    rw [if_pos file, if_neg (by simp), String.toList_ofList, fileEnter_drive scheme alpha,
      dropEmpty_singleton, List.nil_append, List.singleton_inj] at h
    rw [← h, drive, decode?_drive alpha (.inl rfl), Option.some.injEq, String.ofList_inj] at decoded
    simp at decoded

/-! ## Taking the last segment away -/

variable {url : Url} {last : String} {trailing : List String}

theorem dropSegment_append (front : List String) (last : String) :
    dropSegment (front ++ [last]) = rooted front := by
  match front with
  | [] => rfl
  | [first] => rfl
  | first :: next :: rest =>
      have kept : dropSegment (first :: next :: (rest ++ [last])) =
          (first :: next :: (rest ++ [last])).dropLast := rfl
      rw [rooted_of_ne_nil (by simp), List.cons_append, List.cons_append, kept,
        ← List.cons_append, ← List.cons_append, List.dropLast_concat]

theorem popEmptySegment_of_empty (path : url.path = .segments (front ++ [""])) :
    url.popEmptySegment = { url with path := .segments (rooted front) } := by
  rw [popEmptySegment, withSegments, path]
  simp [dropSegment_append]

private theorem popEmptySegment_of_last (path : url.path = .segments (front ++ last :: trailing))
    (filled : last ≠ "") (slash : trailing = [] ∨ trailing = [""]) :
    url.popEmptySegment = { url with path := .segments (front ++ [last]) } := by
  rcases slash with rfl | rfl
  · rw [popEmptySegment, withSegments, path]
    simp [filled]
  · have whole : url.path = .segments ((front ++ [last]) ++ [""]) := by simp [path]
    rw [popEmptySegment_of_empty whole, rooted_of_ne_nil (by simp)]

theorem popSegment_of_last (path : url.path = .segments (front ++ [last])) :
    url.popSegment = { url with path := .segments (rooted front) } := by
  rw [popSegment, withSegments, path]
  simp [dropSegment_append]

theorem pushSegment_of_dots (h : name = "." ∨ name = "..") : url.pushSegment name = url :=
  if_pos h

theorem pushSegment_of_not_dots (notSingle : name ≠ ".") (notDouble : name ≠ "..")
    {segments : List String} (path : url.path = .segments segments) :
    url.pushSegment name =
      { url with path := .segments (appendSegment url.scheme segments name.toList) } := by
  rw [pushSegment, if_neg (by simp [notSingle, notDouble]), withSegments, path]

end Url

/-! ## Accounts -/

namespace Site

open Url

variable {endpoint : Url} {front trailing : List String} {last name : String}

private theorem accountName?_of_last (path : endpoint.path = .segments (front ++ last :: trailing))
    (filled : last ≠ "") (empty : ∀ s ∈ trailing, s = "") :
    accountName? endpoint = some ((Percent.decode? last).getD last) := by
  have segments : endpoint.pathSegments? = some (front ++ last :: trailing) := by
    rw [pathSegments?, path]
    cases front <;> rfl
  have nothing : trailing.reverse.find? (fun segment => segment ≠ "") = none := by
    rw [List.find?_eq_none]
    intro s hs
    simp [empty s (List.mem_reverse.mp hs)]
  have found : (front ++ last :: trailing).reverse.find? (fun segment => segment ≠ "") =
      some last := by
    rw [List.reverse_append, List.reverse_cons, List.append_assoc, List.find?_append, nothing]
    simp [filled]
  rw [accountName?, segments]
  simp only [Option.bind_eq_bind, Option.bind_some, found]
  rfl

/-- Without the segment that another account's takes the place of, the path has these segments. -/
structure LeavesSegments (endpoint : Url) (front : List String) : Prop where
  based : endpoint.cannotBeBase = false
  popped : endpoint.popEmptySegment.popSegment =
    { endpoint with path := .segments (rooted front) }

theorem leavesSegments_of_last (path : endpoint.path = .segments (front ++ last :: trailing))
    (filled : last ≠ "") (slash : trailing = [] ∨ trailing = [""]) :
    LeavesSegments endpoint front where
  based := by rw [cannotBeBase, path]
  popped := by rw [popEmptySegment_of_last path filled slash, popSegment_of_last rfl]

private theorem LeavesSegments.siblingEndpoint_eq (leaves : LeavesSegments endpoint front)
    (name : String) : Site.siblingEndpoint endpoint name =
      if name = "" ∨ '/' ∈ name.toList then .error (.accountNotAllowed name)
      else .ok (Url.pushSegment { endpoint with path := .segments (rooted front) } name) := by
  rw [Site.siblingEndpoint, leaves.based, leaves.popped]
  simp

theorem switch_of_leavesSegments {site : Site} (leaves : LeavesSegments site.endpoint front)
    (name : String) :
    site.switch name =
      if name = "" ∨ '/' ∈ name.toList then .error (.invalidRequest (.accountNotAllowed name))
      else
        ofEndpoint (Url.pushSegment { site.endpoint with path := .segments (rooted front) } name)
          site.settings := by
  rw [switch, leaves.siblingEndpoint_eq]
  split <;> rfl

theorem ofEndpoint_of_last (path : endpoint.path = .segments (front ++ last :: trailing))
    (filled : last ≠ "") (empty : ∀ s ∈ trailing, s = "") (settings : Settings) :
    ofEndpoint endpoint settings = .ok ⟨endpoint, (Percent.decode? last).getD last, settings⟩ := by
  rw [ofEndpoint, accountName?_of_last path filled empty]

private theorem of_ofEndpoint {settings : Settings} {site : Site}
    (h : ofEndpoint endpoint settings = .ok site) :
    site.endpoint = endpoint ∧ accountName? endpoint = some site.account := by
  unfold ofEndpoint at h
  split at h
  · next name found =>
    cases h
    exact ⟨rfl, found⟩
  · exact nomatch h

end Site

namespace Account

open Url

/--
The other account is the one of the name, and lies where the account lies, with a segment for the
name in the place of the one after `front`.
-/
structure IsBeside (account : Account) (front : List String) (name : String) (other : Account) :
    Prop where
  named : other.site.account = name
  located : ∃ segment, Percent.decode? segment = some name ∧
    other.site.endpoint = { account.site.endpoint with path := .segments (front ++ [segment]) }

/-- The account of the name where the account lies, in the place of the segment after `front`. -/
def beside (account : Account) (front : List String) (name : String) : Account :=
  ofSite ⟨{ account.site.endpoint with
    path := .segments
      (front ++ [escaped (appendedSet account.site.endpoint.scheme) name.toList]) },
    name, account.site.settings⟩

variable {account other : Account} {front : List String} {name : String}

theorem isBeside_beside (clean : ∀ c ∈ name.toList, isTabOrLineEnd c = false) :
    account.IsBeside front name (account.beside front name) :=
  ⟨rfl, _, decode?_appended_of_clean _ clean, rfl⟩

private theorem site_of_switch (h : account.switch name = .ok other) :
    account.site.switch name = .ok other.site := by
  unfold switch at h
  cases hsite : account.site.switch name with
  | error error =>
      rw [hsite] at h
      exact nomatch h
  | ok site =>
      rw [hsite] at h
      cases h
      rfl

section

variable (leaves : Site.LeavesSegments account.site.endpoint front)

include leaves

private theorem switch_refused (h : name = "" ∨ '/' ∈ name.toList) :
    account.switch name = .error (.invalidRequest (.accountNotAllowed name)) := by
  rw [switch, Site.switch_of_leavesSegments leaves, if_pos h]
  rfl

theorem endpoint_of_switch (h : account.switch name = .ok other) :
    name ≠ "" ∧ other.site.endpoint =
      Url.pushSegment { account.site.endpoint with path := .segments (rooted front) } name := by
  have switched := site_of_switch h
  rw [Site.switch_of_leavesSegments leaves] at switched
  split at switched
  · exact nomatch switched
  · next accepted => exact ⟨fun empty => accepted (.inl empty), (Site.of_ofEndpoint switched).1⟩

theorem switch_of_readsBack (accepted : ¬(name = "" ∨ '/' ∈ name.toList))
    (reads : ReadsBack account.site.endpoint.scheme front name) :
    account.switch name = .ok (account.beside front name) := by
  let segment := escaped (appendedSet account.site.endpoint.scheme) name.toList
  have decoded : Percent.decode? segment = some name := decode?_appended_of_clean _ reads.clean
  have notEmpty : segment ≠ "" := by
    intro empty
    rw [empty, decode?_empty, Option.some.injEq] at decoded
    exact accepted (.inl decoded.symm)
  have placed : Url.pushSegment { account.site.endpoint with path := .segments (rooted front) }
      name = { account.site.endpoint with path := .segments (front ++ [segment]) } := by
    rw [pushSegment_of_not_dots reads.notSingle reads.notDouble rfl]
    simp only [reads.appendSegment_eq, segment]
  have whole : ({ account.site.endpoint with path := .segments (front ++ [segment]) } : Url).path =
      .segments (front ++ [segment]) := rfl
  have named := Site.ofEndpoint_of_last whole notEmpty (fun _ h => nomatch h) account.site.settings
  rw [decoded, Option.getD_some] at named
  rw [switch, Site.switch_of_leavesSegments leaves, if_neg accepted, placed, named]
  rfl

theorem readsBack_of_isBeside (h : account.switch name = .ok other)
    (beside : account.IsBeside front name other) :
    ReadsBack account.site.endpoint.scheme front name := by
  obtain ⟨notEmpty, endpoint⟩ := endpoint_of_switch leaves h
  obtain ⟨-, segment, decoded, located⟩ := beside
  rw [located] at endpoint
  have segments := congrArg Url.path endpoint
  by_cases dots : name = "." ∨ name = ".."
  · -- Dots append nothing, which leaves one segment too few, or an empty one that names nothing.
    rw [pushSegment_of_dots dots] at segments
    have same := Url.Path.segments.inj segments
    have length := congrArg List.length same
    unfold rooted at same length
    split at length
    · next hfront =>
      rw [if_pos hfront, hfront, List.nil_append, List.singleton_inj] at same
      rw [same, decode?_empty, Option.some.injEq] at decoded
      exact absurd decoded.symm notEmpty
    · simp at length
  · rw [not_or] at dots
    rw [pushSegment_of_not_dots dots.1 dots.2 rfl] at segments
    have same := (Url.Path.segments.inj segments).symm
    exact readsBack_of_appendSegment dots.1 dots.2 decoded same

theorem endpoint_of_dots (dots : name = "." ∨ name = "..") (h : account.switch name = .ok other) :
    other.site.endpoint = { account.site.endpoint with path := .segments (rooted front) } := by
  rw [(endpoint_of_switch leaves h).2, pushSegment_of_dots dots]

end

/--
Switching refuses the empty name and names with a slash.  Of the others, exactly those that are read
back from their segment lead to the account of that name beside the given one, for them it
succeeds, and a dot or two lead to the account above.
-/
theorem switch_reaches_iff (account : Account) {front trailing : List String} {last : String}
    (path : account.site.endpoint.path = .segments (front ++ last :: trailing)) (filled : last ≠ "")
    (slash : trailing = [] ∨ trailing = [""]) (name : String) :
    (name = "" ∨ '/' ∈ name.toList →
      account.switch name = .error (.invalidRequest (.accountNotAllowed name))) ∧
    (¬(name = "" ∨ '/' ∈ name.toList) →
      ReadsBack account.site.endpoint.scheme front name →
      ∃ other, account.switch name = .ok other ∧ account.IsBeside front name other) ∧
    ∀ other, account.switch name = .ok other →
      (account.IsBeside front name other ↔ ReadsBack account.site.endpoint.scheme front name) ∧
      (name = "." ∨ name = ".." →
        other.site.endpoint = { account.site.endpoint with path := .segments (rooted front) }) := by
  have leaves := Site.leavesSegments_of_last path filled slash
  refine ⟨switch_refused leaves, fun accepted reads => ?_,
    fun other h => ⟨⟨?_, fun reads => ?_⟩, ?_⟩⟩
  · exact ⟨_, switch_of_readsBack leaves accepted reads, isBeside_beside reads.clean⟩
  · exact readsBack_of_isBeside leaves h
  · have accepted : ¬(name = "" ∨ '/' ∈ name.toList) := by
      intro refused
      rw [switch_refused leaves refused] at h
      exact nomatch h
    rw [switch_of_readsBack leaves accepted reads, Except.ok.injEq] at h
    exact h ▸ isBeside_beside reads.clean
  · exact fun dots => endpoint_of_dots leaves dots h

/-- The account of an endpoint of the usual form, with a slash at its end. -/
def slashAccount : Account :=
  ofSite ⟨⟨"http", "", "", some "swift.test", none, .segments ["v1", "AUTH_test", ""], none, none,
    false⟩, "AUTH_test", .standard⟩

theorem path_slashAccount :
    slashAccount.site.endpoint.path = .segments (["v1"] ++ "AUTH_test" :: [""]) := rfl

theorem switch_reaches_percent :
    ∃ other, slashAccount.switch "50% \\ ü?" = .ok other ∧
      slashAccount.IsBeside ["v1"] "50% \\ ü?" other := by
  have reads : ReadsBack "http" ["v1"] "50% \\ ü?" := by
    refine ⟨by decide, by decide, ?_, by decide, by decide, fun file => absurd file (by decide)⟩
    exact Text.forall_of_all (by decide)
  have reaches := switch_reaches_iff slashAccount path_slashAccount (by decide) (.inr rfl)
  exact (reaches "50% \\ ü?").2.1 (by decide) reads

/-- The account above, in which the accounts lie. -/
def aboveAccount : Account :=
  ofSite ⟨⟨"http", "", "", some "swift.test", none, .segments ["v1"], none, none, false⟩, "v1",
    .standard⟩

/-- Two dots lead to an account, but not to the one of that name. -/
theorem not_reached_by_dots :
    ¬∀ (account other : Account) (front trailing : List String) (last name : String),
      account.site.endpoint.path = .segments (front ++ last :: trailing) → last ≠ "" →
      trailing = [] ∨ trailing = [""] → account.switch name = .ok other →
      account.IsBeside front name other := by
  intro reached
  have above : slashAccount.switch ".." = .ok aboveAccount := by decide +kernel
  have beside := reached slashAccount aboveAccount ["v1"] [""] "AUTH_test" ".." path_slashAccount
    (by decide) (.inr rfl) above
  exact absurd beside.named (by decide)

end Account

end ObjectStorage
