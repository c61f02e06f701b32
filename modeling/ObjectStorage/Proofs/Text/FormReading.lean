import ObjectStorage.Proofs.Text.Escaped
import ObjectStorage.Text.Form

/-!
# Form-encoded pairs are read back

No text that is form-encoded holds a separator, so that the pairs of a query are cut apart where
they were joined, and every key and value is decoded to what it was.
-/

namespace ObjectStorage.Form

open Percent

/-- What decoding makes of a character before it reads escaped bytes. -/
def spaced (c : Char) : Char := if c = '+' then ' ' else c

/-- Whether the character may stand in an encoded key or value. -/
def isEncodedChar (c : Char) : Bool :=
  c = '+' || isKept (fun byte => !isPlain byte) c || isEscapeChar c

private theorem escapes_beyond (byte : UInt8) (h : 128 ≤ byte.toNat) : (!isPlain byte) = true := by
  simp only [isPlain, Bool.not_eq_true', Bool.or_eq_false_iff, Bool.and_eq_false_iff,
    decide_eq_false_iff_not, beq_eq_false_iff_ne]
  omega

theorem mem_encodeText {text : String} {c : Char} (h : c ∈ encodeText text) :
    isEncodedChar c = true := by
  obtain ⟨byte, -, hc⟩ := List.mem_flatMap.mp h
  unfold encodeByte at hc
  split at hc
  · rw [List.mem_singleton.mp hc]
    decide
  · unfold Percent.encodeByte at hc
    split at hc
    · simp [isEncodedChar, isEscapeChar_of_mem_escapeByte hc]
    · next hplain =>
      rw [List.mem_singleton] at hc
      subst hc
      have check : ∀ n < 256, isPlain (UInt8.ofNat n) = true →
          isEncodedChar (Char.ofNat n) = true := by decide +kernel
      refine check byte.toNat byte.toNat_lt ?_
      rw [UInt8.ofNat_toNat]
      simpa using hplain

theorem not_mem_encodeText {c : Char} (h : isEncodedChar c = false) (text : String) :
    c ∉ encodeText text := fun hc => by
  rw [mem_encodeText hc] at h
  exact nomatch h

/-! ## One text -/

private theorem map_spaced {text : List Char} (h : ∀ c ∈ text, c ≠ '+') :
    text.map spaced = text := by
  have same : text.map spaced = text.map id :=
    List.map_congr_left fun c hc => if_neg (h c hc)
  rw [same, List.map_id]

private theorem decodeBytes_encodeByte (byte : UInt8) (rest : Bytes) :
    decodeBytes (Utf8.encode ((encodeByte byte).map spaced) ++ rest) =
      byte :: decodeBytes rest := by
  unfold encodeByte
  split
  · next h =>
    subst h
    exact decodeBytes_cons_of_ne (by decide) rest
  · next h =>
    have plus : ∀ c ∈ Percent.encodeByte (fun b => !isPlain b) byte, c ≠ '+' := by
      intro c hc heq
      subst heq
      have check : ∀ n < 256, '+' ∉ Percent.encodeByte (fun b => !isPlain b) (UInt8.ofNat n) := by
        decide +kernel
      refine check byte.toNat byte.toNat_lt ?_
      rwa [UInt8.ofNat_toNat]
    rw [map_spaced plus]
    exact Percent.decodeBytes_encodeByte (by decide) escapes_beyond byte rest

private theorem decodeBytes_encodeText (bytes rest : Bytes) :
    decodeBytes (Utf8.encode ((bytes.flatMap encodeByte).map spaced) ++ rest) =
      bytes ++ decodeBytes rest := by
  induction bytes with
  | nil => rfl
  | cons byte bytes ih =>
      have split : Utf8.encode (((byte :: bytes).flatMap encodeByte).map spaced) =
          Utf8.encode ((encodeByte byte).map spaced) ++
            Utf8.encode ((bytes.flatMap encodeByte).map spaced) := by
        simp [Utf8.encode, List.flatMap_cons, List.map_append, List.flatMap_append]
      rw [split, List.append_assoc, decodeBytes_encodeByte, ih, List.cons_append]

@[simp] theorem decodeText_encodeText (text : String) : decodeText (encodeText text) = text := by
  have h := decodeBytes_encodeText (Utf8.ofText text) []
  rw [List.append_nil, decodeBytes, List.append_nil] at h
  change Utf8.decodeLossy (decodeBytes (Utf8.encode ((encodeText text).map spaced))) = text
  rw [encodeText, h, Utf8.decodeLossy_ofText]

/-! ## Pairs -/

@[simp] theorem decodePair_encodePair (pair : String × String) :
    decodePair (encodePair pair) = pair := by
  have separator : '=' ∉ encodeText pair.1 := not_mem_encodeText (by decide) pair.1
  simp [decodePair, encodePair, Text.cut?_append separator]

private theorem not_mem_encodePair (pair : String × String) : '&' ∉ encodePair pair := by
  have key : '&' ∉ encodeText pair.1 := not_mem_encodeText (by decide) pair.1
  have value : '&' ∉ encodeText pair.2 := not_mem_encodeText (by decide) pair.2
  simp [encodePair, key, value]

private theorem filter_encodePairs (pairs : List (String × String)) :
    ((pairs.map encodePair).filter fun piece => !piece.isEmpty) = pairs.map encodePair := by
  refine List.filter_eq_self.mpr fun piece hpiece => ?_
  obtain ⟨pair, -, rfl⟩ := List.mem_map.mp hpiece
  simp [encodePair]

theorem decode_encode (pairs : List (String × String)) : decode (encode pairs) = pairs := by
  cases pairs with
  | nil => rfl
  | cons pair rest =>
      have cut : Text.split '&' (encode (pair :: rest)) = (pair :: rest).map encodePair := by
        refine Text.split_join (by simp) fun piece hpiece => ?_
        obtain ⟨other, -, rfl⟩ := List.mem_map.mp hpiece
        exact not_mem_encodePair other
      rw [decode, cut, filter_encodePairs, List.map_map]
      simp [Function.comp_def]

theorem decode_append (first second : List Char) :
    decode (first ++ '&' :: second) = decode first ++ decode second := by
  simp [decode, Text.split_append]

theorem mem_encode {pairs : List (String × String)} {c : Char} (h : c ∈ encode pairs) :
    isEncodedChar c = true ∨ c = '=' ∨ c = '&' := by
  induction pairs with
  | nil => exact nomatch h
  | cons pair rest ih =>
      have first (hc : c ∈ encodePair pair) : isEncodedChar c = true ∨ c = '=' ∨ c = '&' := by
        simp only [encodePair, List.mem_append, List.mem_cons] at hc
        rcases hc with hc | hc | hc
        · exact .inl (mem_encodeText hc)
        · exact .inr (.inl hc)
        · exact .inl (mem_encodeText hc)
      cases rest with
      | nil => exact first h
      | cons next rest =>
          simp only [encode, List.map_cons, Text.join, List.mem_append, List.mem_cons] at h
          rcases h with h | h | h
          · exact first h
          · exact .inr (.inr h)
          · exact ih h

end ObjectStorage.Form
