import CounterCatalog.Wire.Encoding

set_option autoImplicit false

namespace CounterCatalog.Encoding

theorem toUInt16_eq_zero_iff (byte : UInt8) : byte.toUInt16 = 0 ↔ byte = 0 := by
  constructor
  · intro zero
    have value := congrArg UInt16.toNat zero
    rw [UInt8.toNat_toUInt16] at value
    exact UInt8.toNat_inj.mp value
  · rintro rfl
    rfl

theorem zero_mem_units_narrow (bytes : List UInt8) : 0 ∈ narrow.units bytes ↔ 0 ∈ bytes := by
  change 0 ∈ bytes.map (·.toUInt16) ↔ _
  simp only [List.mem_map, toUInt16_eq_zero_iff, exists_eq_right]

theorem units_append_terminator_narrow (bytes : List UInt8) :
    narrow.units (bytes ++ narrow.terminator) = narrow.units bytes ++ [0] := by
  simp [units, terminator, width]

theorem units_nil (e : Encoding) : e.units [] = [] := by
  cases e <;> rfl

theorem length_wideBytes (us : List UInt16) : (wideBytes us).length = us.length * 2 := by
  induction us with
  | nil => rfl
  | cons u us ih =>
    change (wideBytes us).length + 2 = (us.length + 1) * 2
    omega

theorem wideBytes_append (us vs : List UInt16) :
    wideBytes (us ++ vs) = wideBytes us ++ wideBytes vs :=
  List.flatMap_append

theorem bytes_stringUnits_narrow (bytes : List UInt8) :
    narrow.bytes (Wire.stringUnits (narrow.units bytes)) = bytes.takeWhile (· ≠ 0) := by
  induction bytes with
  | nil => rfl
  | cons byte bytes ih =>
    change narrow.bytes (List.takeWhile _ (byte.toUInt16 :: _)) = _
    by_cases zero : byte = 0
    · subst zero
      rfl
    · have nonzero : byte.toUInt16 ≠ 0 := fun none => zero ((toUInt16_eq_zero_iff byte).mp none)
      rw [List.takeWhile_cons_of_pos (by simpa using nonzero),
        List.takeWhile_cons_of_pos (by simpa using zero), ← ih]
      change byte.toUInt16.toUInt8 :: _ = _
      rw [UInt8.toUInt8_toUInt16]
      rfl

theorem stringUnits_narrow {name : List UInt8} (free : 0 ∉ name) (rest : List UInt8) :
    narrow.bytes (Wire.stringUnits (narrow.units (name ++ [0] ++ rest))) = name := by
  have inside : ∀ byte ∈ name, decide (byte ≠ 0) = true :=
    fun byte hb => decide_eq_true fun zero => free (zero ▸ hb)
  rw [bytes_stringUnits_narrow, List.append_assoc, List.takeWhile_append_of_pos inside,
    List.singleton_append, List.takeWhile_cons_of_neg (by simp), List.append_nil]

end CounterCatalog.Encoding
