import ObjectStorage.Address
import ObjectStorage.Proofs.Outcome
import ObjectStorage.Proofs.Url.Parts

/-!
# Names in addresses

Which names are refused, and what the path of the others is read as: every piece of a name is one
segment, which nothing resolves or cuts, and decoding the segments gives the pieces back.
-/

namespace ObjectStorage.Address

open Percent Url

/-! ## Refused names -/

def IsRefusedContainer (container : String) : Prop :=
  container = "" ∨ '/' ∈ container.toList ∨ container = "." ∨ container = ".."

def IsRefusedObject (object : String) : Prop :=
  object = "" ∨ ∃ piece ∈ Text.splitString '/' object, piece = "." ∨ piece = ".."

theorem isDotSegment_iff (piece : String) :
    isDotSegment piece.toList = true ↔ piece = "." ∨ piece = ".." := by
  have single : piece.toList = ".".toList ↔ piece = "." := String.toList_inj
  have double : piece.toList = "..".toList ↔ piece = ".." := String.toList_inj
  change decide (piece.toList = ".".toList) || decide (piece.toList = "..".toList) ↔ _
  simp only [Bool.or_eq_true, decide_eq_true_eq, single, double]

private theorem checkContainer_cases (container : String) :
    checkContainer container = .ok () ∧ ¬IsRefusedContainer container ∨
      (∃ fault, checkContainer container = .error fault) ∧ IsRefusedContainer container := by
  have dots := isDotSegment_iff container
  unfold checkContainer IsRefusedContainer
  split
  · next h => exact .inr ⟨⟨_, rfl⟩, .inl h⟩
  split
  · next h => exact .inr ⟨⟨_, rfl⟩, .inr (.inl h)⟩
  split
  · next h => exact .inr ⟨⟨_, rfl⟩, .inr (.inr (dots.mp h))⟩
  · next empty slash dot =>
    refine .inl ⟨rfl, ?_⟩
    rintro (h | h | h)
    · exact empty h
    · exact slash h
    · exact dot (dots.mpr h)

private theorem checkObject_cases (object : String) :
    checkObject object = .ok () ∧ ¬IsRefusedObject object ∨
      (∃ fault, checkObject object = .error fault) ∧ IsRefusedObject object := by
  have dots : (Text.split '/' object.toList).any isDotSegment = true ↔
      ∃ piece ∈ Text.splitString '/' object, piece = "." ∨ piece = ".." := by
    constructor
    · intro h
      obtain ⟨piece, hpiece, hdot⟩ := List.any_eq_true.mp h
      refine ⟨String.ofList piece, List.mem_map_of_mem hpiece, ?_⟩
      rw [← isDotSegment_iff, String.toList_ofList]
      exact hdot
    · rintro ⟨piece, hpiece, hdot⟩
      obtain ⟨characters, hcharacters, rfl⟩ := List.mem_map.mp hpiece
      refine List.any_eq_true.mpr ⟨characters, hcharacters, ?_⟩
      rw [← isDotSegment_iff, String.toList_ofList] at hdot
      exact hdot
  unfold checkObject IsRefusedObject
  split
  · next h => exact .inr ⟨⟨_, rfl⟩, .inl h⟩
  split
  · next h => exact .inr ⟨⟨_, rfl⟩, .inr (dots.mp h)⟩
  · next empty dot =>
    refine .inl ⟨rfl, ?_⟩
    rintro (h | h)
    · exact empty h
    · exact dot (dots.mpr h)

theorem check_cases (container : String) (object : Option String) :
    check container object = .ok () ∧ ¬IsRefusedContainer container ∧
        (∀ name, object = some name → ¬IsRefusedObject name) ∨
      (∃ fault, check container object = .error fault) ∧
        (IsRefusedContainer container ∨ ∃ name, object = some name ∧ IsRefusedObject name) := by
  unfold check
  rcases checkContainer_cases container with ⟨hcontainer, plain⟩ | ⟨⟨fault, hcontainer⟩, refused⟩
  · rw [hcontainer]
    cases object with
    | none => exact .inl ⟨rfl, plain, fun _ h => nomatch h⟩
    | some name =>
        rcases checkObject_cases name with ⟨hobject, plainObject⟩ | ⟨hobject, refused⟩
        · refine .inl ⟨hobject, plain, ?_⟩
          intro other hother
          cases hother
          exact plainObject
        · exact .inr ⟨hobject, .inr ⟨name, rfl, refused⟩⟩
  · rw [hcontainer]
    exact .inr ⟨⟨fault, rfl⟩, .inl refused⟩

/-! ## Pieces -/

/-- The pieces of the names, each of which is a segment of the path. -/
def pieces (container : String) (object : Option String) : List String :=
  container :: match object with
    | some object => Text.splitString '/' object
    | none => []

theorem map_splitString (text : String) :
    (Text.splitString '/' text).map String.toList = Text.split '/' text.toList := by
  simp [Text.splitString, Function.comp_def]

theorem join_splitString (text : String) :
    String.ofList (Text.join '/' ((Text.splitString '/' text).map String.toList)) = text := by
  rw [map_splitString, Text.join_split, String.ofList_toList]

theorem splitString_ne_nil (text : String) : Text.splitString '/' text ≠ [] := by
  simpa [Text.splitString] using Text.split_ne_nil '/' text.toList

theorem pieces_injective {first second : String} {object other : Option String}
    (h : pieces first object = pieces second other) : first = second ∧ object = other := by
  obtain ⟨hfirst, hrest⟩ := List.cons.inj h
  refine ⟨hfirst, ?_⟩
  cases object with
  | none =>
      cases other with
      | none => rfl
      | some text => exact absurd hrest.symm (splitString_ne_nil text)
  | some text =>
      cases other with
      | none => exact absurd hrest (splitString_ne_nil text)
      | some otherText =>
          have := congrArg (fun list => String.ofList (Text.join '/' (list.map String.toList))) hrest
          simp only [join_splitString] at this
          rw [this]

def segment (piece : String) : String := String.ofList (encodeSegment piece.toList)

theorem decode?_segment (piece : String) : decode? (segment piece) = some piece :=
  decode?_encode_reserved piece

theorem segment_injective {first second : String} (h : segment first = segment second) :
    first = second := by
  have := congrArg decode? h
  simpa [decode?_segment] using this

theorem toList_path (container : String) (object : Option String) :
    (path container object).toList = pathChars ((pieces container object).map segment) := by
  have same : segments container object =
      ((pieces container object).map segment).map String.toList := by
    unfold segments pieces segment
    cases object <;> simp [Text.splitString, Function.comp_def]
  rw [path, String.toList_ofList, same, pathChars]
  simp [List.flatMap_map]

/-! ## Decoding a path -/

/-- The names as one text. -/
def joined (container : String) (object : Option String) : String :=
  match object with
  | some object => container ++ "/" ++ object
  | none => container

theorem utf8_slash (text : List Char) : Utf8.encode ('/' :: text) = 47 :: Utf8.encode text := by
  have slash : String.utf8EncodeChar '/' = [47] := by decide
  rw [Utf8.encode, List.flatMap_cons, slash]
  rfl

theorem decodeBytes_segments (pieces : List (List Char)) :
    decodeBytes (Utf8.encode (pieces.flatMap fun piece => '/' :: encodeSegment piece)) =
      Utf8.encode (pieces.flatMap fun piece => '/' :: piece) := by
  have encode_append (first second : List Char) :
      Utf8.encode (first ++ second) = Utf8.encode first ++ Utf8.encode second :=
    List.flatMap_append
  induction pieces with
  | nil => rfl
  | cons piece rest ih =>
      simp only [List.flatMap_cons, List.cons_append, utf8_slash, encode_append]
      rw [decodeBytes_cons_of_ne (by decide), encodeSegment, encode,
        decodeBytes_encodeBytes (by decide) isReserved_beyond, ih]

private theorem pathChars_pieces (container : String) (object : Option String) :
    pathChars (pieces container object) = '/' :: (joined container object).toList := by
  unfold pieces joined
  rw [pathChars_cons]
  cases object with
  | none => rfl
  | some object =>
      obtain ⟨first, rest, cut⟩ :=
        List.exists_cons_of_ne_nil (Text.split_ne_nil '/' object.toList)
      rw [List.map_cons, map_splitString, cut, Text.join, ← cut, Text.join_split]
      simp

theorem decodeBytes_path (container : String) (object : Option String) :
    decodeBytes (Utf8.ofText (path container object)) =
      47 :: Utf8.ofText (joined container object) := by
  have coded : (path container object).toList =
      ((pieces container object).map String.toList).flatMap fun piece =>
        '/' :: encodeSegment piece := by
    rw [toList_path, pathChars]
    simp [segment, List.flatMap_map]
  rw [Utf8.ofText, coded, decodeBytes_segments, List.flatMap_map]
  change Utf8.encode (pathChars (pieces container object)) = _
  rw [pathChars_pieces, utf8_slash]
  rfl

theorem decode?_path (container : String) (object : Option String) :
    decode? (path container object) = some ("/" ++ joined container object) := by
  have whole : 47 :: Utf8.ofText (joined container object) =
      Utf8.ofText ("/" ++ joined container object) := by
    rw [Utf8.ofText, Utf8.ofText, String.toList_append, ← utf8_slash]
    rfl
  rw [decode?, decodeBytes_path, whole, Utf8.decode?_ofText]

theorem exists_path (container : String) (object : Option String) :
    ∃ rest, path container object = "/" ++ rest ∧
      decode? rest = some (joined container object) := by
  obtain ⟨rest, hrest⟩ : ∃ rest, (path container object).toList = '/' :: rest := by
    rw [toList_path]
    exact ⟨_, rfl⟩
  have bytes := decodeBytes_path container object
  rw [Utf8.ofText, hrest, utf8_slash, decodeBytes_cons_of_ne (by decide)] at bytes
  refine ⟨String.ofList rest, ?_, ?_⟩
  · rw [← String.toList_inj, hrest]
    simp
  · rw [decode?, Utf8.ofText, String.toList_ofList, (List.cons.inj bytes).2, Utf8.decode?_ofText]

/-! ## Segments -/

/-- Whether the character stands in a segment for itself. -/
def IsPlain (c : Char) : Prop := isKept escapedInPath c = true ∧ c ≠ '/' ∧ c ≠ '\\'

instance (c : Char) : Decidable (IsPlain c) := by
  unfold IsPlain
  infer_instance

theorem forall_mem_segment {P : Char → Prop}
    (kept : ∀ n < 128, isKept isReserved (Char.ofNat n) = true → P (Char.ofNat n))
    (escaped : ∀ c ∈ '%' :: "0123456789ABCDEF".toList, P c) {piece : String} {c : Char}
    (h : c ∈ (segment piece).toList) : P c := by
  rw [segment, String.toList_ofList] at h
  rcases mem_encode isReserved_beyond h with ⟨-, hc⟩ | hc
  · exact forall_kept kept hc
  · exact forall_escapeChar escaped hc

theorem isPlain_of_mem_segment {piece : String} {c : Char} (h : c ∈ (segment piece).toList) :
    IsPlain c :=
  forall_mem_segment (by decide +kernel) (Text.forall_of_all (by decide)) h

theorem decode?_of_isSingleDot {segment : String} (h : isSingleDot segment = true) :
    decode? segment = some "." := by
  simp only [isSingleDot, Bool.or_eq_true, decide_eq_true_eq] at h
  rcases h with (rfl | rfl) | rfl <;> decide +kernel

theorem decode?_of_isDoubleDot {segment : String} (h : isDoubleDot segment = true) :
    decode? segment = some ".." := by
  have check : ∀ text ∈ ["..", ".%2e", ".%2E", "%2e.", "%2E.", "%2e%2e", "%2e%2E", "%2E%2e",
      "%2E%2E"], decode? text = some ".." := by decide +kernel
  exact check segment (List.contains_iff_mem.mp h)

/-- No dots come out of a piece that is none, so that its segment is not resolved. -/
private theorem isSegment_segment {piece : String} (single : piece ≠ ".") (double : piece ≠ "..") :
    IsSegment (segment piece) where
  kept c hc := (isPlain_of_mem_segment hc).1
  noSlash hc := (isPlain_of_mem_segment hc).2.1 rfl
  noBackslash hc := (isPlain_of_mem_segment hc).2.2 rfl
  notSingle := by
    cases h : isSingleDot (segment piece) with
    | false => rfl
    | true =>
        have := decode?_of_isSingleDot h
        rw [decode?_segment] at this
        exact absurd (Option.some.inj this) single
  notDouble := by
    cases h : isDoubleDot (segment piece) with
    | false => rfl
    | true =>
        have := decode?_of_isDoubleDot h
        rw [decode?_segment] at this
        exact absurd (Option.some.inj this) double

theorem isSegment_of_mem {container : String} {object : Option String}
    (hcontainer : ¬IsRefusedContainer container)
    (hobject : ∀ name, object = some name → ¬IsRefusedObject name) {s : String}
    (hs : s ∈ (pieces container object).map segment) : IsSegment s := by
  obtain ⟨piece, hpiece, rfl⟩ := List.mem_map.mp hs
  rcases List.mem_cons.mp hpiece with rfl | hpiece
  · refine isSegment_segment ?_ ?_
    · exact fun h => hcontainer (.inr (.inr (.inl h)))
    · exact fun h => hcontainer (.inr (.inr (.inr h)))
  · cases object with
    | none => exact nomatch hpiece
    | some name =>
        have plain := hobject name rfl
        refine isSegment_segment ?_ ?_
        · exact fun h => plain (.inr ⟨piece, hpiece, .inl h⟩)
        · exact fun h => plain (.inr ⟨piece, hpiece, .inr h⟩)

theorem splitString_path (container : String) (object : Option String) :
    Text.splitString '/' (path container object) =
      "" :: (pieces container object).map segment := by
  refine splitString_of_pathChars (by simp [pieces]) ?_ (toList_path container object)
  intro s hs
  obtain ⟨piece, -, rfl⟩ := List.mem_map.mp hs
  exact fun hc => (isPlain_of_mem_segment hc).2.1 rfl

theorem split_path (container : String) (object : Option String) :
    (Text.splitString '/' (path container object)).map decode? =
      some "" :: (pieces container object).map some := by
  have empty : decode? "" = some "" := by decide
  rw [splitString_path]
  simp [empty, decode?_segment, Function.comp_def]

end ObjectStorage.Address
