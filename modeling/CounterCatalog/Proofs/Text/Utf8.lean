import CounterCatalog.Text.Unicode

set_option autoImplicit false

namespace CounterCatalog.Text.Utf8

def IsTail (byte : UInt8) : Prop := 0x80 ≤ byte.toNat ∧ byte.toNat < 0xC0

/-- Shortest forms only, no surrogates, and nothing beyond U+10FFFF. -/
inductive WellFormed : List UInt8 → Prop where
  | nil : WellFormed []
  | one {a : UInt8} {rest : List UInt8} (first : a.toNat < 0x80) (more : WellFormed rest) :
      WellFormed (a :: rest)
  | two {a b : UInt8} {rest : List UInt8} (first : 0xC2 ≤ a.toNat ∧ a.toNat < 0xE0)
      (second : IsTail b) (more : WellFormed rest) : WellFormed (a :: b :: rest)
  | three {a b c : UInt8} {rest : List UInt8} (first : 0xE0 ≤ a.toNat ∧ a.toNat < 0xF0)
      (second : IsTail b) (third : IsTail c) (shortest : a.toNat = 0xE0 → 0xA0 ≤ b.toNat)
      (scalar : a.toNat = 0xED → b.toNat < 0xA0) (more : WellFormed rest) :
      WellFormed (a :: b :: c :: rest)
  | four {a b c d : UInt8} {rest : List UInt8} (first : 0xF0 ≤ a.toNat ∧ a.toNat < 0xF5)
      (second : IsTail b) (third : IsTail c) (fourth : IsTail d)
      (shortest : a.toNat = 0xF0 → 0x90 ≤ b.toNat) (scalar : a.toNat = 0xF4 → b.toNat < 0x90)
      (more : WellFormed rest) : WellFormed (a :: b :: c :: d :: rest)

theorem toNat_ofNat_of_lt {n : Nat} (h : n < 0x100) : (UInt8.ofNat n).toNat = n := by
  rw [UInt8.toNat_ofNat', Nat.mod_eq_of_lt h]

theorem wellFormed_encodeChar_append (c : Char) {rest : List UInt8} (more : WellFormed rest) :
    WellFormed (String.utf8EncodeChar c ++ rest) := by
  have valid : c.val.toNat < 0xD800 ∨ 0xDFFF < c.val.toNat ∧ c.val.toNat < 0x110000 := c.valid
  unfold String.utf8EncodeChar
  dsimp only
  generalize c.val.toNat = n at valid
  split
  · refine .one ?_ more
    simp (disch := omega) only [toNat_ofNat_of_lt]
    omega
  · split
    · refine .two ?_ ?_ more
      all_goals
        simp (disch := omega) only [IsTail, toNat_ofNat_of_lt]
        omega
    · split
      · refine .three ?_ ?_ ?_ ?_ ?_ more
        all_goals
          simp (disch := omega) only [IsTail, toNat_ofNat_of_lt]
          omega
      · refine .four ?_ ?_ ?_ ?_ ?_ ?_ more
        all_goals
          simp (disch := omega) only [IsTail, toNat_ofNat_of_lt]
          omega

theorem wellFormed_encode (s : String) : WellFormed (encode s) := by
  unfold encode
  induction s.toList with
  | nil => exact .nil
  | cons c cs ih =>
    rw [List.flatMap_cons]
    exact wellFormed_encodeChar_append c ih

theorem exists_char {n : Nat} (valid : n < 0xD800 ∨ 0xDFFF < n ∧ n < 0x110000) :
    ∃ c : Char, c.val.toNat = n := by
  have word : (UInt32.ofNat n).toNat = n := by
    rw [UInt32.toNat_ofNat', Nat.mod_eq_of_lt (by omega)]
  exact ⟨⟨UInt32.ofNat n, by rw [UInt32.isValidChar, word]; exact valid⟩, word⟩

theorem ofNat_eq {n : Nat} (byte : UInt8) (h : n = byte.toNat) : UInt8.ofNat n = byte := by
  rw [h, UInt8.ofNat_toNat]

theorem exists_encode_cons (c : Char) (bytes : List UInt8) {rest : List UInt8}
    (h : String.utf8EncodeChar c = bytes) (more : ∃ s, encode s = rest) :
    ∃ s, encode s = bytes ++ rest := by
  obtain ⟨s, rfl⟩ := more
  refine ⟨String.ofList (c :: s.toList), ?_⟩
  rw [encode, String.toList_ofList, List.flatMap_cons, h]
  rfl

theorem WellFormed.exists_encode {bytes : List UInt8} (h : WellFormed bytes) :
    ∃ s, encode s = bytes := by
  -- Each rule has the character whose bits its bytes carry.
  induction h with
  | nil => exact ⟨"", rfl⟩
  | @one a rest first _ ih =>
    obtain ⟨c, hc⟩ := exists_char (n := a.toNat) (by omega)
    refine exists_encode_cons c [a] ?_ ih
    simp only [String.utf8EncodeChar, hc]
    rw [if_pos (by omega), UInt8.ofNat_toNat]
  | @two a b rest first second _ ih =>
    obtain ⟨low, high⟩ := second
    obtain ⟨c, hc⟩ := exists_char (n := (a.toNat - 0xC0) * 64 + (b.toNat - 0x80)) (by omega)
    refine exists_encode_cons c [a, b] ?_ ih
    simp only [String.utf8EncodeChar, hc]
    rw [if_neg (by omega), if_pos (by omega), ofNat_eq a (by omega),
      ofNat_eq b (by omega)]
  | @three a b c rest first second third shortest scalar _ ih =>
    obtain ⟨low, high⟩ := second
    obtain ⟨low', high'⟩ := third
    obtain ⟨d, hd⟩ := exists_char
      (n := (a.toNat - 0xE0) * 4096 + (b.toNat - 0x80) * 64 + (c.toNat - 0x80)) (by omega)
    refine exists_encode_cons d [a, b, c] ?_ ih
    simp only [String.utf8EncodeChar, hd]
    rw [if_neg (by omega), if_neg (by omega), if_pos (by omega), ofNat_eq a (by omega),
      ofNat_eq b (by omega), ofNat_eq c (by omega)]
  | @four a b c d rest first second third fourth shortest scalar _ ih =>
    obtain ⟨low, high⟩ := second
    obtain ⟨low', high'⟩ := third
    obtain ⟨low'', high''⟩ := fourth
    obtain ⟨e, he⟩ := exists_char
      (n := (a.toNat - 0xF0) * 262144 + (b.toNat - 0x80) * 4096 + (c.toNat - 0x80) * 64 +
        (d.toNat - 0x80)) (by omega)
    refine exists_encode_cons e [a, b, c, d] ?_ ih
    simp only [String.utf8EncodeChar, he]
    rw [if_neg (by omega), if_neg (by omega), if_neg (by omega), ofNat_eq a (by omega),
      ofNat_eq b (by omega), ofNat_eq c (by omega),
      ofNat_eq d (by omega)]

theorem wellFormed_iff {bytes : List UInt8} : WellFormed bytes ↔ ∃ s, encode s = bytes := by
  constructor
  · exact WellFormed.exists_encode
  · rintro ⟨s, rfl⟩
    exact wellFormed_encode s

theorem toByteArray_encode (s : String) : (encode s).toByteArray = s.toByteArray :=
  String.utf8Encode_toList

theorem decode?_encode (s : String) : decode? (encode s) = some s := by
  rw [decode?, toByteArray_encode, String.fromUTF8?, dif_pos s.isValidUTF8]
  rfl

theorem encode_injective {s t : String} (h : encode s = encode t) : s = t := by
  have read := congrArg decode? h
  rw [decode?_encode, decode?_encode] at read
  exact Option.some.inj read

theorem decode?_eq_none {bytes : List UInt8} (h : ¬ WellFormed bytes) : decode? bytes = none := by
  rw [wellFormed_iff] at h
  rw [decode?, String.fromUTF8?, dif_neg]
  rintro ⟨cs, same⟩
  refine h ⟨String.ofList cs, List.toByteArray_inj.mp ?_⟩
  rw [toByteArray_encode, same, String.toByteArray_ofList]

end CounterCatalog.Text.Utf8
