import CounterCatalog.Proofs.Text.Zeros

set_option autoImplicit false

namespace CounterCatalog.Text.Utf16

/-- No partner is left to a high surrogate if no low one follows it. A low one has none if it is
come upon by itself, since that of a pair is read together with the high one before it. -/
inductive Reads : List UInt16 → List Char → Prop where
  | nil : Reads [] []
  | written (c : Char) {rest : List UInt16} {cs : List Char} (more : Reads rest cs) :
      Reads (encodeChar c ++ rest) (c :: cs)
  | unpaired {unit : UInt16} {rest : List UInt16} {cs : List Char}
      (surrogate : isHigh unit = true ∨ isLow unit = true)
      (alone : isHigh unit = true → ∀ next ∈ rest.head?, isLow next = false)
      (more : Reads rest cs) : Reads (unit :: rest) (replacement :: cs)

theorem toNat_ofNat_of_scalar {n : Nat} (scalar : n < 0xD800 ∨ 0xDFFF < n ∧ n < 0x110000) :
    (Char.ofNat n).toNat = n := by
  rw [Char.ofNat, dif_pos scalar]
  rfl

theorem encodeChar_ofNat {unit : UInt16} (high : isHigh unit = false)
    (low : isLow unit = false) : encodeChar (Char.ofNat unit.toNat) = [unit] := by
  have small := unit.toNat_lt
  have value : (Char.ofNat unit.toNat).toNat = unit.toNat := by
    apply toNat_ofNat_of_scalar
    simp only [isHigh, isLow, Bool.and_eq_false_iff, decide_eq_false_iff_not] at high low
    omega
  rw [encodeChar, value, if_pos small, UInt16.ofNat_toNat]

theorem encodeChar_paired {first second : UInt16} (high : isHigh first = true)
    (low : isLow second = true) : encodeChar (paired first second) = [first, second] := by
  simp only [isHigh, isLow, Bool.and_eq_true, decide_eq_true_eq] at high low
  have value : (paired first second).toNat =
      0x10000 + (first.toNat - 0xD800) * 0x400 + (second.toNat - 0xDC00) :=
    toNat_ofNat_of_scalar (by omega)
  have lead : 0xD800 + (0x10000 + (first.toNat - 0xD800) * 0x400 + (second.toNat - 0xDC00)
      - 0x10000) / 0x400 = first.toNat := by omega
  have trail : 0xDC00 + (0x10000 + (first.toNat - 0xD800) * 0x400 + (second.toNat - 0xDC00)
      - 0x10000) % 0x400 = second.toNat := by omega
  rw [encodeChar, value, if_neg (by omega), lead, trail, UInt16.ofNat_toNat, UInt16.ofNat_toNat]

theorem single_of_surrogate {unit : UInt16} (h : isHigh unit = true ∨ isLow unit = true) :
    single unit = replacement := by
  rw [single, if_pos (Bool.or_eq_true _ _ ▸ h)]

theorem Reads.single {unit : UInt16} {rest : List UInt16} {cs : List Char}
    (alone : isHigh unit = true → ∀ next ∈ rest.head?, isLow next = false)
    (more : Reads rest cs) : Reads (unit :: rest) (Utf16.single unit :: cs) := by
  by_cases surrogate : isHigh unit = true ∨ isLow unit = true
  · rw [single_of_surrogate surrogate]
    exact .unpaired surrogate alone more
  · obtain ⟨high, low⟩ := not_or.mp surrogate
    rw [Bool.not_eq_true] at high low
    have own := Reads.written (Char.ofNat unit.toNat) more
    rw [encodeChar_ofNat high low] at own
    rw [Utf16.single, high, low]
    exact own

theorem reads_decodeChars (us : List UInt16) : Reads us (decodeChars us) := by
  induction us using decodeChars.induct with
  | case1 => exact .nil
  | case2 unit => exact .single (by simp) .nil
  | case3 first second rest pair ih =>
    obtain ⟨high, low⟩ := Bool.and_eq_true _ _ ▸ pair
    have own := Reads.written (paired first second) ih
    rw [encodeChar_paired high low] at own
    rw [decodeChars, if_pos pair]
    exact own
  | case4 first second rest unpaired ih =>
    rw [decodeChars, if_neg unpaired]
    refine .single (fun high next hn => ?_) ih
    rw [← Option.some.inj hn]
    simpa [high] using unpaired

theorem Reads.decodeChars_eq {us : List UInt16} {cs : List Char} (h : Reads us cs) :
    decodeChars us = cs := by
  induction h with
  | nil => rfl
  | written c _ ih => rw [decodeChars_encodeChar_append, ih]
  | @unpaired unit rest cs surrogate alone more ih =>
    cases rest with
    | nil =>
      rw [← ih, ← single_of_surrogate surrogate]
      rfl
    | cons next rest =>
      have none : ¬ (isHigh unit && isLow next) = true := by
        intro pair
        obtain ⟨high, low⟩ := Bool.and_eq_true _ _ ▸ pair
        rw [alone high next rfl] at low
        cases low
      rw [decodeChars, if_neg none, ih, single_of_surrogate surrogate]

theorem reads_iff {us : List UInt16} {cs : List Char} : Reads us cs ↔ decodeChars us = cs :=
  ⟨Reads.decodeChars_eq, fun h => h ▸ reads_decodeChars us⟩

theorem Reads.nul_not_mem {us : List UInt16} {cs : List Char} (h : Reads us cs)
    (free : 0 ∉ us) : '\x00' ∉ cs := by
  induction h with
  | nil => exact List.not_mem_nil
  | written c _ ih =>
    intro hm
    rcases List.mem_cons.mp hm with same | later
    · subst same
      exact free (by simp [encodeChar_nul])
    · exact ih (fun zero => free (List.mem_append_right _ zero)) later
  | unpaired _ _ _ ih =>
    intro hm
    rcases List.mem_cons.mp hm with same | later
    · exact absurd same (by decide)
    · exact ih (fun zero => free (List.mem_cons_of_mem _ zero)) later

end CounterCatalog.Text.Utf16
