import ObjectStorage.Proofs.Url.HostText
import ObjectStorage.Url.Parser

/-!
# The parts of URLs are read back

How the segments of a path and the parts of an authority are found again where they stand in the
text of a URL.
-/

namespace ObjectStorage.Url

open Percent

/-! ## Segments -/

/-- A segment that is written as it is and is not resolved. -/
structure IsSegment (segment : String) : Prop where
  kept : ∀ c ∈ segment.toList, isKept escapedInPath c = true
  noSlash : '/' ∉ segment.toList
  noBackslash : '\\' ∉ segment.toList
  notSingle : isSingleDot segment = false
  notDouble : isDoubleDot segment = false

def pathChars (segments : List String) : List Char :=
  segments.flatMap fun segment => '/' :: segment.toList

theorem toList_pathText (segments : List String) :
    (Path.segments segments).text.toList = pathChars segments := by
  simp [Path.text, pathChars, String.toList_join, List.flatMap_map, String.toList_append]

theorem pathChars_append (first second : List String) :
    pathChars (first ++ second) = pathChars first ++ pathChars second := by
  simp [pathChars]

theorem pathChars_cons (first : String) (rest : List String) :
    pathChars (first :: rest) = '/' :: Text.join '/' ((first :: rest).map String.toList) := by
  induction rest generalizing first with
  | nil => simp [pathChars, Text.join]
  | cons next rest ih =>
      have tail := ih next
      simp only [pathChars, List.flatMap_cons, List.map_cons] at tail ⊢
      rw [tail, Text.join]
      simp

theorem splitString_of_pathChars {text : String} {segments : List String} (hne : segments ≠ [])
    (h : ∀ s ∈ segments, '/' ∉ s.toList) (shape : text.toList = pathChars segments) :
    Text.splitString '/' text = "" :: segments := by
  obtain ⟨first, rest, rfl⟩ := List.exists_cons_of_ne_nil hne
  have pieces : ∀ piece ∈ (first :: rest).map String.toList, '/' ∉ piece := by
    intro piece hpiece
    obtain ⟨s, hs, rfl⟩ := List.mem_map.mp hpiece
    exact h s hs
  rw [Text.splitString, shape, pathChars_cons, Text.split, if_pos rfl,
    Text.split_join (by simp) pieces]
  simp [Function.comp_def]

private theorem enterAll_of_plain (entered : List String) {segments : List String}
    (h : ∀ s ∈ segments, isSingleDot s = false ∧ isDoubleDot s = false) :
    enterAll entered segments = entered ++ segments := by
  induction segments generalizing entered with
  | nil => simp [enterAll]
  | cons first rest ih =>
      have hfirst := h first List.mem_cons_self
      cases rest with
      | nil => simp [enterAll, enter, hfirst]
      | cons next rest =>
          rw [enterAll, ih _ fun s hs => h s (List.mem_cons_of_mem _ hs)]
          simp [enter, hfirst]

theorem mem_enter {isLast : Bool} {entered : List String} {segment s : String}
    (h : s ∈ enter isLast entered segment) :
    s ∈ entered ∨ s = "" ∨ s = segment ∧ isSingleDot s = false ∧ isDoubleDot s = false := by
  unfold enter at h
  split at h
  · rcases List.mem_append.mp h with h | h
    · unfold ascend at h
      split at h
      · exact .inl h
      · exact .inl (List.dropLast_subset _ h)
    · cases isLast <;> simp_all
  next hdouble =>
  split at h
  · rcases List.mem_append.mp h with h | h
    · exact .inl h
    · cases isLast <;> simp_all
  next hsingle =>
  rcases List.mem_append.mp h with h | h
  · exact .inl h
  · have : s = segment := by simpa using h
    subst this
    exact .inr (.inr ⟨rfl, by simpa using hsingle, by simpa using hdouble⟩)

theorem mem_enterAll {entered segments : List String} {s : String}
    (h : s ∈ enterAll entered segments) :
    s ∈ entered ∨ s = "" ∨ s ∈ segments ∧ isSingleDot s = false ∧ isDoubleDot s = false := by
  induction segments generalizing entered with
  | nil => exact .inl h
  | cons first rest ih =>
      cases rest with
      | nil =>
          rcases mem_enter h with h | h | ⟨rfl, plain⟩
          · exact .inl h
          · exact .inr (.inl h)
          · exact .inr (.inr ⟨by simp, plain⟩)
      | cons next rest =>
          rcases ih h with h | h | ⟨hmem, h⟩
          · rcases mem_enter h with h | h | ⟨rfl, plain⟩
            · exact .inl h
            · exact .inr (.inl h)
            · exact .inr (.inr ⟨by simp, plain⟩)
          · exact .inr (.inl h)
          · exact .inr (.inr ⟨List.mem_cons_of_mem _ hmem, h⟩)

theorem enterAll_ne_nil (entered : List String) {segments : List String} (h : segments ≠ []) :
    enterAll entered segments ≠ [] := by
  induction segments generalizing entered with
  | nil => exact absurd rfl h
  | cons first rest ih =>
      cases rest with
      | nil =>
          simp only [enterAll, enter]
          split
          · simp
          · split <;> simp
      | cons next rest => exact ih _ (by simp)

theorem IsSegment.escaped_eq {segment : String} (h : IsSegment segment) :
    Url.escaped escapedInPath segment.toList = segment := by
  rw [isPartSet_path.escaped_of_kept h.kept, String.ofList_toList]

theorem segmentsOf_join {segments : List String} (hne : segments ≠ [])
    (h : ∀ s ∈ segments, IsSegment s) :
    segmentsOf (Text.join '/' (segments.map String.toList)) = segments := by
  have cut : Text.split '/' (Text.join '/' (segments.map String.toList)) =
      segments.map String.toList := by
    refine Text.split_join (by simpa using hne) fun piece hpiece => ?_
    obtain ⟨s, hs, rfl⟩ := List.mem_map.mp hpiece
    exact (h s hs).noSlash
  have written : (segments.map String.toList).map (Url.escaped escapedInPath) = segments := by
    rw [List.map_map]
    refine (List.map_congr_left fun s hs => ?_).trans (List.map_id segments)
    exact (h s hs).escaped_eq
  rw [segmentsOf, cut, written, enterAll_of_plain [] fun s hs =>
    ⟨(h s hs).notSingle, (h s hs).notDouble⟩]
  rfl

theorem isSegment_empty : IsSegment "" where
  kept c hc := by simp at hc
  noSlash := by decide
  noBackslash := by decide
  notSingle := by decide
  notDouble := by decide

theorem normalSlashes_of_not_mem {text : List Char} (h : '\\' ∉ text) :
    normalSlashes true text = text := by
  rw [normalSlashes, if_pos rfl]
  refine (List.map_congr_left fun c hc => ?_).trans (List.map_id text)
  exact if_neg fun heq : c = '\\' => h (heq ▸ hc)

theorem not_mem_normalSlashes (text : List Char) : '\\' ∉ normalSlashes true text := by
  intro h
  rw [normalSlashes, if_pos rfl] at h
  obtain ⟨c, -, hc⟩ := List.mem_map.mp h
  split at hc
  · exact absurd hc (by decide)
  · next hne => exact hne hc

theorem isSegment_of_mem_segmentsOf {text : List Char} (h : '\\' ∉ text) {s : String}
    (hs : s ∈ segmentsOf text) : IsSegment s := by
  rcases mem_enterAll hs with hs | rfl | ⟨hs, single, double⟩
  · exact nomatch hs
  · exact isSegment_empty
  · obtain ⟨piece, hpiece, rfl⟩ := List.mem_map.mp hs
    refine ⟨fun c hc => isPartSet_path.kept_of_mem hc, fun hc => ?_, fun hc => ?_, single, double⟩
    · rcases isPartSet_path.origin_of_mem hc with hc | hc
      · exact Text.not_mem_of_mem_split hpiece hc
      · exact absurd hc (by decide)
    · rcases isPartSet_path.origin_of_mem hc with hc | hc
      · exact h (Text.mem_of_mem_split hpiece hc)
      · exact absurd hc (by decide)

theorem mem_pathChars {segments : List String} (h : ∀ s ∈ segments, IsSegment s) {c : Char}
    (hc : c ∈ pathChars segments) : c = '/' ∨ isKept escapedInPath c = true ∧ c ≠ '\\' := by
  obtain ⟨s, hs, hc⟩ := List.mem_flatMap.mp hc
  rcases List.mem_cons.mp hc with rfl | hc
  · exact .inl rfl
  · refine .inr ⟨(h s hs).kept c hc, ?_⟩
    rintro rfl
    exact (h s hs).noBackslash hc

/-! ## Cutting -/

section

variable {separator : Char} {text : List Char}

theorem cutAt_of_not_mem (h : separator ∉ text) : cutAt separator text = (text, none) := by
  rw [cutAt, Text.cut?_eq_none h]

theorem cutAt_append (h : separator ∉ text) (rest : List Char) :
    cutAt separator (text ++ separator :: rest) = (text, some rest) := by
  rw [cutAt, Text.cut?_append h]

theorem cutLast?_eq_none (h : separator ∉ text) : Text.cutLast? separator text = none := by
  rw [Text.cutLast?, Text.cut?_eq_none (by simpa using h)]

theorem cutLast?_append (before : List Char) (h : separator ∉ text) :
    Text.cutLast? separator (before ++ separator :: text) = some (before, text) := by
  have turned : (before ++ separator :: text).reverse =
      text.reverse ++ separator :: before.reverse := by simp
  rw [Text.cutLast?, turned, Text.cut?_append (by simpa using h)]
  simp

/-- A mark and the text after it, if there is one. -/
def tailChars (mark : Char) : Option String → List Char
  | some part => mark :: part.toList
  | none => []

theorem cutAt_tail (h : separator ∉ text) (part : Option String) :
    cutAt separator (text ++ tailChars separator part) = (text, part.map String.toList) := by
  cases part with
  | none => simpa [tailChars] using cutAt_of_not_mem h
  | some part => exact cutAt_append h part.toList

end

/-! ## Authorities -/

theorem cutPort_cons {inBrackets : Bool} {c : Char} (h : c = ':' → inBrackets = true)
    (rest : List Char) :
    cutPort inBrackets (c :: rest) =
      (c :: (cutPort (if c = '[' then true else if c = ']' then false else inBrackets) rest).1,
        (cutPort (if c = '[' then true else if c = ']' then false else inBrackets) rest).2) := by
  rw [cutPort, if_neg fun hc => by simp [h hc.1] at hc]

private theorem cutPort_of_name {text : List Char} (h : ∀ c ∈ text, isInName c = true)
    (rest : List Char) :
    cutPort false (text ++ rest) =
      (text ++ (cutPort false rest).1, (cutPort false rest).2) := by
  induction text with
  | nil => simp
  | cons c text ih =>
      have hc := h c List.mem_cons_self
      have plain : c ≠ ':' ∧ c ≠ '[' ∧ c ≠ ']' := by
        refine ⟨?_, ?_, ?_⟩ <;>
          · rintro rfl
            exact absurd hc (by decide)
      rw [List.cons_append, cutPort_cons fun hcolon => absurd hcolon plain.1, if_neg plain.2.1,
        if_neg plain.2.2, ih fun d hd => h d (List.mem_cons_of_mem _ hd)]
      rfl

private theorem cutPort_in_brackets {text : List Char}
    (h : ∀ c ∈ text, isInHost c = true ∧ c ≠ '[' ∧ c ≠ ']') (rest : List Char) :
    cutPort true (text ++ ']' :: rest) =
      (text ++ ']' :: (cutPort false rest).1, (cutPort false rest).2) := by
  induction text with
  | nil =>
      rw [List.nil_append, cutPort_cons fun _ => rfl]
      rfl
  | cons c text ih =>
      obtain ⟨-, notOpen, notClose⟩ := h c List.mem_cons_self
      rw [List.cons_append, cutPort_cons fun _ => rfl, if_neg notOpen, if_neg notClose,
        ih fun d hd => h d (List.mem_cons_of_mem _ hd)]
      rfl

theorem IsHost.cutPort_append {host : List Char} (h : IsHost host) (rest : List Char) :
    Url.cutPort false (host ++ rest) =
      (host ++ (Url.cutPort false rest).1, (Url.cutPort false rest).2) := by
  cases h with
  | name hne h => exact cutPort_of_name h rest
  | bracketed h =>
      rw [List.cons_append, List.append_assoc, cutPort_cons (fun hc => absurd hc (by decide)),
        if_pos rfl, List.singleton_append, cutPort_in_brackets h]
      simp

theorem IsHost.ne_nil {host : List Char} (h : IsHost host) : host ≠ [] := by
  cases h with
  | name hne _ => exact hne
  | bracketed _ => simp

theorem IsHost.isInHost_of_mem {host : List Char} (h : IsHost host) {c : Char} (hc : c ∈ host) :
    Url.isInHost c = true := by
  cases h with
  | name _ h =>
      have := h c hc
      simp only [isInName, Bool.and_eq_true] at this
      exact this.1
  | bracketed h =>
      rcases List.mem_cons.mp hc with rfl | hc
      · decide
      rcases List.mem_append.mp hc with hc | hc
      · exact (h c hc).1
      · rw [List.mem_singleton] at hc
        subst hc
        decide

end ObjectStorage.Url
