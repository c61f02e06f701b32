import ObjectStorage.Proofs.Text.Escaped
import ObjectStorage.Url.Host

/-!
# The characters of hosts

Whatever a host was read from, what is kept of it is a name without any character that would end
the host, the authority or the whole address, or such a text in square brackets.
-/

namespace ObjectStorage.Url

/-! ## Digits -/

theorem mem_writeNat {n : Nat} {c : Char} (h : c ∈ (Integer.writeNat n).toList) :
    48 ≤ c.toNat ∧ c.toNat ≤ 57 := by
  rw [Integer.writeNat, String.toList_ofList] at h
  exact Integer.isDigit_of_mem_toDigits h

def isHexChar (c : Char) : Bool := "0123456789abcdef".toList.contains c

private theorem isHexChar_digitChar : ∀ n < 16, isHexChar n.digitChar = true := by decide

private theorem mem_hexDigits {n : Nat} {c : Char} (h : c ∈ Nat.toDigits 16 n) :
    isHexChar c = true := by
  induction n using Nat.strongRecOn with
  | ind n ih =>
      by_cases small : n < 16
      · rw [Nat.toDigits_of_lt_base small, List.mem_singleton] at h
        subst h
        exact isHexChar_digitChar n small
      · rw [Nat.toDigits_of_base_le (by omega) (by omega), List.mem_append,
          List.mem_singleton] at h
        rcases h with h | h
        · exact ih (n / 16) (by omega) h
        · subst h
          exact isHexChar_digitChar _ (by omega)

theorem mem_intercalate {separator : String} {pieces : List String} {c : Char}
    (h : c ∈ (separator.intercalate pieces).toList) :
    c ∈ separator.toList ∨ ∃ piece ∈ pieces, c ∈ piece.toList := by
  induction pieces with
  | nil => simp at h
  | cons piece rest ih =>
      cases rest with
      | nil => exact .inr ⟨piece, by simp, by simpa using h⟩
      | cons next rest =>
          rw [String.intercalate_cons_cons] at h
          simp only [String.toList_append, List.mem_append] at h
          rcases h with (h | h) | h
          · exact .inr ⟨piece, by simp, h⟩
          · exact .inl h
          · rcases ih h with h | ⟨other, hother, h⟩
            · exact .inl h
            · exact .inr ⟨other, List.mem_cons_of_mem _ hother, h⟩

private theorem mem_of_mapM {α β : Type} {f : α → Option β} {inputs : List α} {outputs : List β}
    (h : inputs.mapM f = some outputs) {output : β} (hmem : output ∈ outputs) :
    ∃ input ∈ inputs, f input = some output := by
  induction inputs generalizing outputs with
  | nil =>
      cases h
      exact nomatch hmem
  | cons input rest ih =>
      simp only [List.mapM_cons, Option.bind_eq_bind, Option.bind_eq_some_iff] at h
      obtain ⟨first, hfirst, others, hothers, h⟩ := h
      cases h
      rcases List.mem_cons.mp hmem with rfl | hmem
      · exact ⟨input, by simp, hfirst⟩
      · obtain ⟨other, hother, heq⟩ := ih hothers hmem
        exact ⟨other, List.mem_cons_of_mem _ hother, heq⟩

private theorem mem_join {separator : Char} {pieces : List (List Char)} {c : Char}
    (h : c ∈ Text.join separator pieces) : c = separator ∨ ∃ piece ∈ pieces, c ∈ piece := by
  induction pieces with
  | nil => exact nomatch h
  | cons piece rest ih =>
      cases rest with
      | nil => exact .inr ⟨piece, by simp, h⟩
      | cons next rest =>
          simp only [Text.join, List.mem_append, List.mem_cons] at h
          rcases h with h | h | h
          · exact .inr ⟨piece, by simp, h⟩
          · exact .inl h
          · rcases ih h with h | ⟨other, hother, h⟩
            · exact .inl h
            · exact .inr ⟨other, List.mem_cons_of_mem _ hother, h⟩

/-! ## Punycode -/

namespace Punycode

def isDigitChar (c : Char) : Bool := "abcdefghijklmnopqrstuvwxyz0123456789".toList.contains c

private theorem isDigitChar_digit : ∀ n < 36, isDigitChar (digit n) = true := by decide

theorem threshold_lt (k bias : Nat) : threshold k bias < 27 := by
  unfold threshold
  grind

private theorem mem_varyingDigits {bias k n : Nat} {c : Char} (h : c ∈ varyingDigits bias k n) :
    isDigitChar c = true := by
  induction n using Nat.strongRecOn generalizing k with
  | ind n ih =>
      have pos := threshold_pos k bias
      have lt := threshold_lt k bias
      rw [varyingDigits] at h
      split at h
      · rw [List.mem_singleton] at h
        subst h
        exact isDigitChar_digit n (by omega)
      · rcases List.mem_cons.mp h with h | h
        · subst h
          have := Nat.mod_lt (n - threshold k bias) (show 0 < 36 - threshold k bias by omega)
          exact isDigitChar_digit _ (by omega)
        · have smaller := Nat.div_le_self (n - threshold k bias) (36 - threshold k bias)
          exact ih _ (by omega) h

/-- Beyond what is there already, only digits are written. -/
def Extends (start : List Char) (state : State) : Prop :=
  ∀ c ∈ state.output, c ∈ start ∨ isDigitChar c = true

private theorem Extends.visit {start : List Char} {state : State} (h : Extends start state)
    (n c : Nat) : Extends start (visit n state c) := by
  unfold Punycode.visit
  split
  · exact h
  split
  · intro d hd
    rcases List.mem_append.mp hd with hd | hd
    · exact h d hd
    · exact .inr (mem_varyingDigits hd)
  · exact h

private theorem Extends.foldl {start : List Char} (n : Nat) (label : List Nat) {state : State}
    (h : Extends start state) : Extends start (label.foldl (Punycode.visit n) state) := by
  induction label generalizing state with
  | nil => exact h
  | cons c rest ih => exact ih (h.visit n c)

private theorem Extends.handleAll {start : List Char} (label : List Nat) {state : State}
    (last : Nat) (others : List Nat) (h : Extends start state) :
    Extends start (handleAll label state last others) := by
  induction others generalizing state last with
  | nil => exact h
  | cons next rest ih =>
      refine ih next ?_
      have raised : Extends start
          { state with delta := state.delta + (next - last - 1) * (state.handled + 1) } := h
      exact raised.foldl next label

theorem mem_encode {label : List Char} {c : Char} (h : c ∈ encode label) :
    c ∈ label ∧ c.toNat < 128 ∨ c = '-' ∨ isDigitChar c = true := by
  have start : ∀ d ∈ (if (label.filter fun c => c.toNat < 128).isEmpty then []
      else (label.filter fun c => c.toNat < 128) ++ ['-']),
      d ∈ label ∧ d.toNat < 128 ∨ d = '-' := by
    intro d hd
    split at hd
    · exact nomatch hd
    · rcases List.mem_append.mp hd with hd | hd
      · exact .inl (by simpa using hd)
      · exact .inr (List.mem_singleton.mp hd)
  unfold encode at h
  refine ((Extends.handleAll _ 127 _ ?_) c h).elim (fun hc => (start c hc).imp id .inl)
    fun hc => .inr (.inr hc)
  intro d hd
  exact .inl hd

end Punycode

/-! ## Names -/

/-- Whether the character ends neither the host nor what the host is a part of. -/
def isInHost (c : Char) : Bool := 0x20 < c.toNat && !"/\\?#@".toList.contains c

/-- Whether the character may stand in a host without brackets. -/
def isInName (c : Char) : Bool := isInHost c && !":[]".toList.contains c

theorem isInName_of_digit {c : Char} (h : 48 ≤ c.toNat ∧ c.toNat ≤ 57) : isInName c = true := by
  have check : ∀ n ≤ 57, 48 ≤ n → isInName (Char.ofNat n) = true := by decide
  have := check c.toNat h.2 h.1
  rwa [Char.ofNat_toNat] at this

private theorem isInName_of_puny {c : Char} (h : Punycode.isDigitChar c = true) :
    isInName c = true := by
  have check : ∀ c ∈ "abcdefghijklmnopqrstuvwxyz0123456789".toList, isInName c = true :=
    Text.forall_of_all (by decide)
  exact check c (List.contains_iff_mem.mp h)

theorem isInName_of_allowed {c : Char} (h : Domain.isForbidden c = false) : isInName c = true := by
  simp [Domain.isForbidden] at h
  simp [isInName, isInHost, h]

private theorem isInName_of_label {text : List Char} {label : Domain.Label}
    (h : Domain.Label.read? text = some label)
    (clean : ∀ c ∈ text, Domain.isForbidden c = false) :
    ∀ c ∈ label.written, isInName c = true := by
  unfold Domain.Label.read? at h
  split at h
  · split at h
    · obtain ⟨meant, -, rfl⟩ := Option.map_eq_some_iff.mp h
      exact fun c hc => isInName_of_allowed (clean c hc)
    · exact nomatch h
  · cases h
    dsimp only
    split
    · exact fun c hc => isInName_of_allowed (clean c hc)
    · intro c hc
      rcases List.mem_append.mp hc with hc | hc
      · have check : ∀ c ∈ Domain.Label.codePrefix, isInName c = true :=
          Text.forall_of_all (by decide)
        exact check c hc
      · rcases Punycode.mem_encode hc with ⟨hc, -⟩ | rfl | hc
        · exact isInName_of_allowed (clean c hc)
        · decide
        · exact isInName_of_puny hc

private theorem isInName_of_domain {text domain : List Char}
    (h : Domain.toAscii? text = some domain) :
    ∀ c ∈ domain, isInName c = true := by
  unfold Domain.toAscii? at h
  cases hmapped : Domain.mapText? text with
  | none => simp [hmapped] at h
  | some mapped =>
      simp only [hmapped, Option.bind_eq_bind, Option.bind_some] at h
      split at h
      · exact nomatch h
      next hclean =>
      have clean : ∀ c ∈ Text.normalize mapped, Domain.isForbidden c = false := by
        simpa using hclean
      cases hlabels : (Text.split '.' (Text.normalize mapped)).mapM Domain.Label.read? with
      | none => simp [hlabels] at h
      | some labels =>
          simp only [hlabels, Option.bind_some] at h
          split at h
          · cases h
            intro c hc
            rcases mem_join hc with rfl | ⟨written, hwritten, hc⟩
            · decide
            · obtain ⟨label, hlabel, rfl⟩ := List.mem_map.mp hwritten
              obtain ⟨piece, hpiece, hread⟩ := mem_of_mapM hlabels hlabel
              refine isInName_of_label hread (fun d hd => clean d ?_) c hc
              exact Text.mem_of_mem_split hpiece hd
          · exact nomatch h

/-! ## Hosts -/

/-- A host as it is kept: a name, or what stands in brackets. -/
inductive IsHost : List Char → Prop
  | name {text : List Char} (hne : text ≠ []) (h : ∀ c ∈ text, isInName c = true) : IsHost text
  | bracketed {text : List Char}
      (h : ∀ c ∈ text, isInHost c = true ∧ c ≠ '[' ∧ c ≠ ']') : IsHost ('[' :: (text ++ [']']))

private theorem mem_hexPieces {pieces : List Nat} {c : Char}
    (h : c ∈ (Host.hexPieces pieces).toList) :
    c = ':' ∨ isHexChar c = true := by
  rcases mem_intercalate h with hc | ⟨piece, hpiece, hc⟩
  · exact .inl (by simpa using hc)
  · obtain ⟨n, -, rfl⟩ := List.mem_map.mp hpiece
    rw [String.toList_ofList] at hc
    exact .inr (mem_hexDigits hc)

private theorem mem_ipv6Text {pieces : List Nat} {c : Char}
    (h : c ∈ (Host.ipv6Text pieces).toList) :
    isInHost c = true ∧ c ≠ '[' ∧ c ≠ ']' := by
  have plain {c : Char} (hc : c = ':' ∨ isHexChar c = true) :
      isInHost c = true ∧ c ≠ '[' ∧ c ≠ ']' := by
    rcases hc with rfl | hc
    · decide
    · have check : ∀ c ∈ "0123456789abcdef".toList, isInHost c = true ∧ c ≠ '[' ∧ c ≠ ']' :=
        Text.forall_of_all (by decide)
      exact check c (List.contains_iff_mem.mp hc)
  unfold Host.ipv6Text at h
  dsimp only at h
  split at h
  · exact plain (mem_hexPieces h)
  · simp only [String.toList_append, List.mem_append] at h
    rcases h with (h | h) | h
    · exact plain (mem_hexPieces h)
    · exact plain (.inl (by simpa using h))
    · exact plain (mem_hexPieces h)

theorem isHost_ipv6 {text : List Char} {host : String} (h : Host.ipv6 text = .ok host) :
    IsHost host.toList := by
  unfold Host.ipv6 at h
  split at h
  · split at h
    · next pieces _ =>
      cases h
      have shape : ("[" ++ Host.ipv6Text pieces ++ "]").toList =
          '[' :: ((Host.ipv6Text pieces).toList ++ [']']) := by
        simp [String.toList_append]
      rw [shape]
      exact .bracketed fun c hc => mem_ipv6Text hc
    · exact nomatch h
  · exact nomatch h

private theorem isHost_ipv4 (value : Nat) : IsHost (Host.ipv4Text value).toList := by
  refine .name ?_ fun c hc => ?_
  · intro hempty
    have first : (Host.ipv4Text value).toList =
        (Integer.writeNat (value / 16777216 % 256)).toList ++ '.' ::
          (".".intercalate ([65536, 256, 1].map fun unit =>
            Integer.writeNat (value / unit % 256))).toList := by
      rw [Host.ipv4Text, List.map_cons, List.map_cons, String.intercalate_cons_cons]
      simp [String.toList_append]
    rw [first] at hempty
    simp at hempty
  · rcases mem_intercalate hc with hc | ⟨part, hpart, hc⟩
    · have : c = '.' := by simpa using hc
      subst this
      decide
    · obtain ⟨unit, -, rfl⟩ := List.mem_map.mp hpart
      exact isInName_of_digit (mem_writeNat hc)

theorem isHost_of_special {text : List Char} {host : String} (h : Host.special text = .ok host) :
    IsHost host.toList := by
  unfold Host.special at h
  split at h
  · exact isHost_ipv6 h
  split at h
  · exact nomatch h
  split at h
  · exact nomatch h
  · exact nomatch h
  · next domain hne hdomain =>
    split at h
    · split at h
      · next hv4 =>
        cases h
        simp only [Host.ipv4?, Option.bind_eq_bind, Option.bind_eq_some_iff] at hv4
        obtain ⟨_, -, value, -, hvalue⟩ := hv4
        cases hvalue
        exact isHost_ipv4 value
      · exact nomatch h
    · cases h
      rw [String.toList_ofList]
      exact .name hne (isInName_of_domain hdomain)

end ObjectStorage.Url
