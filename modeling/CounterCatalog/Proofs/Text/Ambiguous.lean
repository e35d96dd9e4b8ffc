import CounterCatalog.Proofs.Text.CodePage

set_option autoImplicit false

namespace CounterCatalog.Text

def IsAscii (s : String) : Prop := ∀ c ∈ s.toList, c.toNat < 0x80

namespace Utf8

theorem length_le_length_encode (s : String) : s.length ≤ (encode s).length := by
  rw [encode, ← String.length_toList]
  induction s.toList with
  | nil => exact Nat.zero_le _
  | cons c cs ih =>
    have one := c.utf8Size_pos
    rw [List.flatMap_cons, List.length_append, String.length_utf8EncodeChar, List.length_cons]
    omega

theorem two_le_utf8Size {c : Char} (h : ¬ c.toNat < 0x80) : 2 ≤ c.utf8Size := by
  have one := c.utf8Size_pos
  have short : c.utf8Size ≠ 1 := fun size => h (by
    have value := Char.utf8Size_eq_one_iff.mp size
    change c.val.toNat ≤ 127 at value
    change c.val.toNat < 128
    omega)
  omega

theorem isAscii_of_length_encode {s : String} (h : (encode s).length ≤ s.length) : IsAscii s := by
  rw [encode, ← String.length_toList] at h
  unfold IsAscii
  generalize s.toList = cs at h ⊢
  induction cs with
  | nil => exact fun c hc => absurd hc List.not_mem_nil
  | cons c cs ih =>
    rw [List.flatMap_cons, List.length_append, String.length_utf8EncodeChar, List.length_cons] at h
    have rest := length_le_length_encode (String.ofList cs)
    rw [encode, String.toList_ofList, String.length_ofList] at rest
    by_cases ascii : c.toNat < 0x80
    · have one := c.utf8Size_pos
      exact List.forall_mem_cons.mpr ⟨ascii, ih (by omega)⟩
    · have two := two_le_utf8Size ascii
      omega

theorem lt_of_mem_encode {s : String} (h : IsAscii s) : ∀ byte ∈ encode s, byte < 0x80 := by
  intro byte hb
  obtain ⟨c, hc, here⟩ := List.mem_flatMap.mp hb
  have small := h c hc
  rw [encodeChar_ascii small, List.mem_singleton] at here
  rw [here, UInt8.lt_iff_toNat_lt, toNat_ofNat_of_lt (by omega)]
  exact small

end Utf8

namespace CodePage

def Covers (s : String) : Prop := ∀ c ∈ s.toList, (byteOf? c).isSome

theorem decode_encode {s : String} (h : Covers s) : decode (encode s) = s := by
  have chars : ∀ cs : List Char, (∀ c ∈ cs, (byteOf? c).isSome) →
      (cs.flatMap encodeChar).map charOf = cs := by
    intro cs covered
    induction cs with
    | nil => rfl
    | cons c cs ih =>
      obtain ⟨own, rest⟩ := List.forall_mem_cons.mp covered
      obtain ⟨byte, found⟩ := Option.isSome_iff_exists.mp own
      rw [List.flatMap_cons, encodeChar, found, List.singleton_append, List.map_cons,
        charOf_of_byteOf? found, ih rest]
  rw [decode, encode, chars _ h, String.ofList_toList]

theorem length_decode (bytes : List UInt8) : (decode bytes).length = bytes.length := by
  rw [decode, String.length_ofList, List.length_map]

theorem charOf_ascii (byte : UInt8) : byte < 0x80 → (charOf byte).toNat < 0x80 := by
  revert byte
  apply forall_byte
  decide +kernel

theorem isAscii_decode {bytes : List UInt8} (h : ∀ byte ∈ bytes, byte < 0x80) :
    IsAscii (decode bytes) := by
  intro c hc
  rw [decode, String.toList_ofList] at hc
  obtain ⟨byte, hb, rfl⟩ := List.mem_map.mp hc
  exact charOf_ascii byte (h byte hb)

theorem encode_of_isAscii {s : String} (h : IsAscii s) : encode s = Utf8.encode s := by
  unfold IsAscii at h
  unfold encode Utf8.encode
  generalize s.toList = cs at h ⊢
  induction cs with
  | nil => rfl
  | cons c cs ih =>
    obtain ⟨own, rest⟩ := List.forall_mem_cons.mp h
    have plain : isPlain c.toNat = true := by simp [isPlain, own]
    rw [List.flatMap_cons, List.flatMap_cons, ih rest, Utf8.encodeChar_ascii own, encodeChar,
      byteOf?, if_pos plain]

theorem decode_utf8_of_isAscii {s : String} (h : IsAscii s) : decode (Utf8.encode s) = s :=
  Utf8.encode_injective ((utf8_decode_eq_iff _).mpr (Utf8.lt_of_mem_encode h))

/-- How a text is read that was written in Windows-1252: as UTF-8 wherever that is possible. -/
structure ReadsAs (s text : String) : Prop where
  utf8 : Utf8.WellFormed (encode s) → Utf8.encode text = encode s
  codePage : ¬ Utf8.WellFormed (encode s) → text = decode (encode s)

theorem readsAs (s : String) :
    ReadsAs s ((Utf8.decode? (encode s)).getD (decode (encode s))) where
  utf8 formed := by
    obtain ⟨text, same⟩ := formed.exists_encode
    rw [← same, Utf8.decode?_encode]
    rfl
  codePage other := by rw [Utf8.decode?_eq_none other]; rfl

/-- Which texts of the code page come back as they were written, and what becomes of the others. -/
structure ComesBack (s text : String) : Prop where
  same : text = s ↔ IsAscii s ∨ ¬ Utf8.WellFormed (encode s)
  utf8 : text ≠ s → Utf8.encode text = encode s
  shorter : text ≠ s → text.length < s.length

section Covered
variable {s text : String} (covered : Covers s) (h : ReadsAs s text)
include covered h

theorem ReadsAs.eq_iff : text = s ↔ IsAscii s ∨ ¬ Utf8.WellFormed (encode s) := by
  constructor
  · rintro rfl
    by_cases formed : Utf8.WellFormed (encode text)
    · have bytes := h.utf8 formed
      have ascii := utf8_decode_eq_iff (encode text)
      rw [decode_encode covered] at ascii
      rw [← decode_encode covered]
      exact .inl (isAscii_decode (ascii.mp bytes))
    · exact .inr formed
  · rintro (ascii | other)
    · have bytes := encode_of_isAscii ascii
      apply Utf8.encode_injective
      rw [← bytes]
      apply h.utf8
      rw [bytes]
      exact Utf8.wellFormed_encode s
    · rw [h.codePage other, decode_encode covered]

theorem ReadsAs.utf8_of_ne (other : text ≠ s) : Utf8.encode text = encode s := by
  by_cases formed : Utf8.WellFormed (encode s)
  · exact h.utf8 formed
  · exact absurd ((h.eq_iff covered).mpr (.inr formed)) other

theorem ReadsAs.length_lt (other : text ≠ s) : text.length < s.length := by
  have bytes := h.utf8_of_ne covered other
  have same : (Utf8.encode text).length = s.length := by
    rw [bytes, ← length_decode, decode_encode covered]
  -- With a byte for each of its characters the text would be ASCII, and so the one written.
  rcases Nat.lt_or_ge text.length s.length with short | long
  · exact short
  · have ascii := Utf8.isAscii_of_length_encode (s := text) (by omega)
    have read := decode_utf8_of_isAscii ascii
    rw [bytes, decode_encode covered] at read
    exact absurd read.symm other

theorem ReadsAs.comesBack : ComesBack s text where
  same := h.eq_iff covered
  utf8 := h.utf8_of_ne covered
  shorter := h.length_lt covered

end Covered

end CodePage

end CounterCatalog.Text
