import CounterCatalog.Text.Characters
import CounterCatalog.Text.Unicode

set_option autoImplicit false

namespace CounterCatalog.Text

/-- The parts of a text between its NUL characters; there is always one more than there are NULs. -/
def pieces (s : String) : List String := (s.toList.splitOn '\x00').map String.ofList

theorem not_mem_of_not_hasNul {s : String} (h : hasNul s = false) : '\x00' ∉ s.toList := by
  intro hc
  rw [hasNul, List.contains_iff_mem.mpr hc] at h
  contradiction

theorem not_isTerminable {s : String} {front back : List Char}
    (nul : s.toList = front ++ '\x00' :: back) (more : back ≠ []) : ¬ isTerminable s := by
  intro passes
  rcases (isTerminable_iff s).mp passes with plain | ⟨t, plain, rfl⟩
  · exact not_mem_of_not_hasNul plain (nul ▸ List.mem_append_right _ List.mem_cons_self)
  · obtain ⟨init, last, rfl⟩ := (List.eq_nil_or_concat back).resolve_left more
    rw [String.toList_push, List.concat_eq_append, ← List.cons_append, ← List.append_assoc] at nul
    have same := (List.append_inj' nul rfl).1
    exact not_mem_of_not_hasNul plain (same ▸ List.mem_append_right _ List.mem_cons_self)

theorem pieces_of_not_hasNul {s : String} (h : hasNul s = false) : pieces s = [s] := by
  rw [pieces, List.splitOn_eq_singleton (not_mem_of_not_hasNul h), List.map_singleton,
    String.ofList_toList]

theorem splitOn_flatMap {α β : Type} [BEq α] [LawfulBEq α] [BEq β] [LawfulBEq β] (f : α → List β)
    (z : α) (zero : β) (hz : f z = [zero]) (h : ∀ c, c ≠ z → zero ∉ f c) (cs : List α) :
    (cs.flatMap f).splitOn zero = (cs.splitOn z).map (·.flatMap f) := by
  induction cs with
  | nil => rfl
  | cons c cs ih =>
    rw [List.flatMap_cons, List.splitOn_cons_eq_if_modifyHead]
    by_cases hc : c = z
    · subst c
      rw [hz, List.singleton_append, List.splitOn_cons_eq_if_modifyHead,
        if_pos (beq_self_eq_true _), if_pos (beq_self_eq_true _), ih]
      rfl
    · rw [if_neg (by simpa using hc)]
      -- A character other than `z` only makes the first part longer.
      obtain ⟨first, rest, hs⟩ := List.exists_cons_of_ne_nil (List.splitOn_ne_nil z cs)
      have lead : ∀ us : List β, zero ∉ us → ∀ vs : List β,
          (us ++ vs).splitOn zero = (vs.splitOn zero).modifyHead (us ++ ·) := by
        intro us hus vs
        induction us with
        | nil => cases hv : vs.splitOn zero <;> simp [hv]
        | cons u us ihu =>
          have hu : (u == zero) = false := by
            simpa using fun e : u = zero => hus (e ▸ List.mem_cons_self)
          rw [List.cons_append, List.splitOn_cons_eq_if_modifyHead, hu, if_neg (by simp),
            ihu fun hm => hus (List.mem_cons_of_mem _ hm), List.modifyHead_modifyHead]
          rfl
      rw [lead _ (h c hc), ih, hs]
      simp

theorem takeWhile_flatMap_append {α β : Type} [DecidableEq α] [DecidableEq β] (f : α → List β)
    (z : α) (zero : β) (hz : f z = [zero]) (h : ∀ c, c ≠ z → zero ∉ f c) (cs : List α) :
    (cs.flatMap f ++ [zero]).takeWhile (· ≠ zero) = (cs.takeWhile (· ≠ z)).flatMap f := by
  induction cs with
  | nil => simp
  | cons c cs ih =>
    by_cases hc : c = z
    · subst c
      simp [hz]
    · have free : ∀ unit ∈ f c, decide (unit ≠ zero) = true := by
        intro unit hu
        have other : unit ≠ zero := fun e => h c hc (e ▸ hu)
        simpa using other
      rw [List.flatMap_cons, List.append_assoc, List.takeWhile_append_of_pos free, ih,
        List.takeWhile_cons_of_pos (by simpa using hc), List.flatMap_cons]

namespace Utf16

theorem zero_not_mem_encodeChar {c : Char} (h : c ≠ '\x00') : 0 ∉ encodeChar c := by
  have valid : c.toNat < 0xD800 ∨ 0xDFFF < c.toNat ∧ c.toNat < 0x110000 := c.valid
  have positive : c.toNat ≠ 0 := by
    intro hc
    apply h
    rw [← Char.ofNat_toNat c, hc]
  have nonzero : ∀ n : Nat, 0 < n → n < 0x10000 → (0 : UInt16) ≠ .ofNat n := by
    intro n hn small same
    have value := congrArg UInt16.toNat same
    rw [UInt16.toNat_ofNat', Nat.mod_eq_of_lt (by omega)] at value
    exact absurd value (by simp; omega)
  intro hm
  unfold encodeChar at hm
  split at hm
  · exact nonzero _ (by omega) (by omega) (List.mem_singleton.mp hm)
  · rcases List.mem_cons.mp hm with high | low
    · exact nonzero _ (by omega) (by omega) high
    · exact nonzero _ (by omega) (by omega) (List.mem_singleton.mp low)

theorem encodeChar_nul : encodeChar '\x00' = [0] := by decide

theorem encode_eq_nil {s : String} : encode s = [] ↔ s = "" := by
  constructor
  · intro h
    rw [← decode_encode s, h]
    rfl
  · rintro rfl
    rfl

theorem zero_not_mem_encode {s : String} (h : hasNul s = false) : 0 ∉ encode s := by
  intro hm
  obtain ⟨c, hc, hz⟩ := List.mem_flatMap.mp hm
  exact zero_not_mem_encodeChar (fun e => not_mem_of_not_hasNul h (e ▸ hc)) hz

theorem splitOn_encode (s : String) : (encode s).splitOn 0 = (pieces s).map encode := by
  rw [encode, splitOn_flatMap encodeChar '\x00' 0 encodeChar_nul fun _ => zero_not_mem_encodeChar,
    pieces, List.map_map]
  apply List.map_congr_left
  intro cs _
  simp [encode]

theorem takeWhile_encode (s : String) :
    (encode s ++ [0]).takeWhile (· ≠ 0) = encode (beforeNul s) := by
  rw [encode, takeWhile_flatMap_append encodeChar '\x00' 0 encodeChar_nul
    fun _ => zero_not_mem_encodeChar]
  simp [encode, beforeNul]

end Utf16

namespace Utf8

theorem encodeChar_ascii {c : Char} (h : c.toNat < 0x80) :
    String.utf8EncodeChar c = [.ofNat c.toNat] := by
  unfold String.utf8EncodeChar
  exact if_pos (show c.toNat ≤ 0x7F by omega)

theorem le_of_mem_encodeChar {c : Char} (h : 0x80 ≤ c.toNat) :
    ∀ byte ∈ String.utf8EncodeChar c, 0x80 ≤ byte.toNat := by
  have whole : ∀ n : Nat, 0x80 ≤ n → n < 0x100 → 0x80 ≤ (UInt8.ofNat n).toNat := by
    intro n low high
    rw [UInt8.toNat_ofNat', Nat.mod_eq_of_lt (by omega)]
    exact low
  change 0x80 ≤ c.val.toNat at h
  intro byte hb
  unfold String.utf8EncodeChar at hb
  dsimp only at hb
  rw [if_neg (by omega)] at hb
  split at hb
  · simp only [List.mem_cons, List.not_mem_nil, or_false] at hb
    rcases hb with rfl | rfl <;> exact whole _ (by omega) (by omega)
  · split at hb
    · simp only [List.mem_cons, List.not_mem_nil, or_false] at hb
      rcases hb with rfl | rfl | rfl <;> exact whole _ (by omega) (by omega)
    · simp only [List.mem_cons, List.not_mem_nil, or_false] at hb
      rcases hb with rfl | rfl | rfl | rfl <;> exact whole _ (by omega) (by omega)

theorem zero_not_mem_encodeChar {c : Char} (h : c ≠ '\x00') : 0 ∉ String.utf8EncodeChar c := by
  by_cases ascii : c.toNat < 0x80
  · rw [encodeChar_ascii ascii]
    intro hm
    apply h
    have value := congrArg UInt8.toNat (List.mem_singleton.mp hm)
    rw [UInt8.toNat_ofNat', Nat.mod_eq_of_lt (by omega)] at value
    rw [← Char.ofNat_toNat c, ← value]
    rfl
  · intro hm
    exact absurd (le_of_mem_encodeChar (by omega) 0 hm) (by decide)

theorem zero_not_mem_encode {s : String} (h : hasNul s = false) : 0 ∉ encode s := by
  intro hm
  obtain ⟨c, hc, hz⟩ := List.mem_flatMap.mp hm
  exact zero_not_mem_encodeChar (fun e => not_mem_of_not_hasNul h (e ▸ hc)) hz

end Utf8

end CounterCatalog.Text
