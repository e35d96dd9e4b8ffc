import CounterCatalog.Proofs.Text.Utf8
import CounterCatalog.Proofs.Text.Zeros
import CounterCatalog.Text.CodePage

set_option autoImplicit false

namespace CounterCatalog.Text.CodePage

theorem forall_byte {p : UInt8 → Prop} (h : ∀ n : Fin 256, p (.ofNat n.val)) (byte : UInt8) :
    p byte := by
  have own := h ⟨byte.toNat, byte.toNat_lt⟩
  rwa [UInt8.ofNat_toNat] at own

theorem length_encodeChar_charOf (byte : UInt8) :
    (Utf16.encodeChar (charOf byte)).length = 1 := by
  revert byte
  apply forall_byte
  decide +kernel

theorem charOf_eq_nul_iff (byte : UInt8) : charOf byte = '\x00' ↔ byte = 0 := by
  revert byte
  apply forall_byte
  decide +kernel

theorem utf8EncodeChar_charOf_ascii (byte : UInt8) :
    byte < 0x80 → String.utf8EncodeChar (charOf byte) = [byte] := by
  revert byte
  apply forall_byte
  decide +kernel

theorem two_le_utf8Size_charOf (byte : UInt8) : ¬ byte < 0x80 → 2 ≤ (charOf byte).utf8Size := by
  revert byte
  apply forall_byte
  decide +kernel

theorem utf8_decode_cons (byte : UInt8) (bytes : List UInt8) :
    Utf8.encode (decode (byte :: bytes)) =
      String.utf8EncodeChar (charOf byte) ++ Utf8.encode (decode bytes) := by
  simp [Utf8.encode, decode]

theorem length_le_length_utf8_decode (bytes : List UInt8) :
    bytes.length ≤ (Utf8.encode (decode bytes)).length := by
  induction bytes with
  | nil => exact Nat.zero_le _
  | cons byte bytes ih =>
    have one := (charOf byte).utf8Size_pos
    rw [utf8_decode_cons, List.length_append, String.length_utf8EncodeChar, List.length_cons]
    omega

theorem utf8_decode_eq_iff (bytes : List UInt8) :
    Utf8.encode (decode bytes) = bytes ↔ ∀ byte ∈ bytes, byte < 0x80 := by
  induction bytes with
  | nil => simp [Utf8.encode, decode]
  | cons byte bytes ih =>
    rw [utf8_decode_cons, List.forall_mem_cons]
    by_cases ascii : byte < 0x80
    · rw [utf8EncodeChar_charOf_ascii byte ascii, List.singleton_append, List.cons_inj_right, ih]
      exact ⟨fun rest => ⟨ascii, rest⟩, And.right⟩
    · -- No byte is lost, so that a byte which becomes two makes the whole too long.
      refine ⟨fun same => ?_, fun all => absurd all.1 ascii⟩
      have two := two_le_utf8Size_charOf byte ascii
      have rest := length_le_length_utf8_decode bytes
      have length := congrArg List.length same
      rw [List.length_append, String.length_utf8EncodeChar, List.length_cons] at length
      omega

theorem hasNul_decode {bytes : List UInt8} (free : 0 ∉ bytes) : hasNul (decode bytes) = false := by
  rw [hasNul, decode, String.toList_ofList, ← Bool.not_eq_true, List.contains_iff_mem]
  intro hm
  obtain ⟨byte, hb, nul⟩ := List.mem_map.mp hm
  exact free ((charOf_eq_nul_iff byte).mp nul ▸ hb)

theorem length_utf16_decode (bytes : List UInt8) :
    (Utf16.encode (decode bytes)).length = bytes.length := by
  induction bytes with
  | nil => rfl
  | cons byte bytes ih =>
    have step : Utf16.encode (decode (byte :: bytes)) =
        Utf16.encodeChar (charOf byte) ++ Utf16.encode (decode bytes) := by
      simp [Utf16.encode, decode]
    rw [step, List.length_append, length_encodeChar_charOf, ih, List.length_cons, Nat.add_comm]

theorem utf16EncodeChar_charOf_ascii (byte : UInt8) :
    byte < 0x80 → Utf16.encodeChar (charOf byte) = [byte.toUInt16] := by
  revert byte
  apply forall_byte
  decide +kernel

theorem utf16_decode_of_ascii {bytes : List UInt8} (ascii : ∀ byte ∈ bytes, byte < 0x80) :
    Utf16.decode (bytes.map (·.toUInt16)) = decode bytes := by
  have units : Utf16.encode (decode bytes) = bytes.map (·.toUInt16) := by
    rw [Utf16.encode, decode, String.toList_ofList]
    induction bytes with
    | nil => rfl
    | cons byte bytes ih =>
      obtain ⟨own, rest⟩ := List.forall_mem_cons.mp ascii
      rw [List.map_cons, List.flatMap_cons, utf16EncodeChar_charOf_ascii byte own, ih rest]
      rfl
  rw [← units, Utf16.decode_encode]

theorem charOf_upper (i : Fin upper.length) : charOf (.ofNat (0x80 + i.val)) = upper[i.val] := by
  revert i
  decide +kernel

theorem charOf_of_byteOf? {c : Char} {byte : UInt8} (h : byteOf? c = some byte) :
    charOf byte = c := by
  unfold byteOf? at h
  split at h
  · next plain =>
    have small : c.toNat < 0x100 := by
      simp only [isPlain, Bool.or_eq_true, Bool.and_eq_true, decide_eq_true_eq] at plain
      omega
    cases h
    rw [charOf, Utf8.toNat_ofNat_of_lt small, if_pos plain, Char.ofNat_toNat]
  · obtain ⟨i, found, rfl⟩ := Option.map_eq_some_iff.mp h
    obtain ⟨inside, same, -⟩ := List.idxOf?_eq_some_iff.mp found
    exact (charOf_upper ⟨i, inside⟩).trans same

theorem reference_eq (c : Char) :
    reference c =
      ('&' :: '#' :: (Nat.toDigits 10 c.toNat ++ [';'])).map fun d => .ofNat d.toNat := by
  simp [reference, Numeral.decimal]

theorem zero_not_mem_reference (c : Char) : 0 ∉ reference c := by
  have digit : ∀ d ∈ Nat.toDigits 10 c.toNat, 0 < d.toNat ∧ d.toNat < 0x100 := by
    intro d hd
    have range := Nat.isDigit_of_mem_toDigits (by decide) (by decide) hd
    obtain ⟨low, high⟩ := Char.isDigit_iff_toNat.mp range
    change 48 ≤ d.toNat at low
    change d.toNat ≤ 57 at high
    omega
  have printed : ∀ d ∈ '&' :: '#' :: (Nat.toDigits 10 c.toNat ++ [';']),
      0 < d.toNat ∧ d.toNat < 0x100 := by
    simp only [List.forall_mem_cons, List.forall_mem_append]
    exact ⟨by decide, by decide, digit, by decide, by simp⟩
  rw [reference_eq]
  intro hm
  obtain ⟨d, hd, zero⟩ := List.mem_map.mp hm
  obtain ⟨positive, small⟩ := printed d hd
  have value := congrArg UInt8.toNat zero
  rw [Utf8.toNat_ofNat_of_lt small] at value
  exact absurd value (Nat.ne_of_gt positive)

theorem zero_not_mem_encode {s : String} (h : hasNul s = false) : 0 ∉ encode s := by
  intro hm
  obtain ⟨c, hc, zero⟩ := List.mem_flatMap.mp hm
  cases found : byteOf? c with
  | none =>
    rw [encodeChar, found] at zero
    exact zero_not_mem_reference c zero
  | some byte =>
    rw [encodeChar, found, List.mem_singleton] at zero
    have nul := (charOf_eq_nul_iff byte).mpr zero.symm
    rw [charOf_of_byteOf? found] at nul
    exact not_mem_of_not_hasNul h (nul ▸ hc)

theorem encodeChar_ne_nil (c : Char) : encodeChar c ≠ [] := by
  unfold encodeChar
  split
  · exact List.cons_ne_nil _ _
  · rw [reference_eq]
    exact List.cons_ne_nil _ _

theorem encode_ne_nil {s : String} (h : s ≠ "") : encode s ≠ [] := by
  intro none
  apply h
  rw [← String.toList_eq_nil_iff, List.eq_nil_iff_forall_not_mem]
  intro c hc
  exact encodeChar_ne_nil c (List.flatMap_eq_nil_iff.mp none c hc)

end CounterCatalog.Text.CodePage
