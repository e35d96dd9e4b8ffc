set_option autoImplicit false

namespace CounterCatalog.Text.Utf8

def encode (s : String) : List UInt8 := s.toList.flatMap String.utf8EncodeChar

def decode? (bytes : List UInt8) : Option String := String.fromUTF8? bytes.toByteArray

end CounterCatalog.Text.Utf8

namespace CounterCatalog.Text.Utf16

def isHigh (unit : UInt16) : Bool := 0xD800 ≤ unit.toNat && unit.toNat < 0xDC00

def isLow (unit : UInt16) : Bool := 0xDC00 ≤ unit.toNat && unit.toNat < 0xE000

def encodeChar (c : Char) : List UInt16 :=
  if c.toNat < 0x10000 then [.ofNat c.toNat]
  else
    [.ofNat (0xD800 + (c.toNat - 0x10000) / 0x400),
      .ofNat (0xDC00 + (c.toNat - 0x10000) % 0x400)]

def encode (s : String) : List UInt16 := s.toList.flatMap encodeChar

def replacement : Char := '\uFFFD'

def single (unit : UInt16) : Char :=
  if isHigh unit || isLow unit then replacement else Char.ofNat unit.toNat

def paired (high low : UInt16) : Char :=
  Char.ofNat (0x10000 + (high.toNat - 0xD800) * 0x400 + (low.toNat - 0xDC00))

def decodeChars : List UInt16 → List Char
  | [] => []
  | [unit] => [single unit]
  | first :: second :: rest =>
    if isHigh first && isLow second then paired first second :: decodeChars rest
    else single first :: decodeChars (second :: rest)

def decode (units : List UInt16) : String := String.ofList (decodeChars units)

theorem single_ofNat {n : Nat} (h : n < 0xD800 ∨ 0xE000 ≤ n) (small : n < 0x10000) :
    single (.ofNat n) = Char.ofNat n := by
  have whole : (UInt16.ofNat n).toNat = n := by
    rw [UInt16.toNat_ofNat', Nat.mod_eq_of_lt (by omega)]
  have high : isHigh (.ofNat n) = false := by
    simp only [isHigh, whole, Bool.and_eq_false_iff, decide_eq_false_iff_not]
    omega
  have low : isLow (.ofNat n) = false := by
    simp only [isLow, whole, Bool.and_eq_false_iff, decide_eq_false_iff_not]
    omega
  rw [single, high, low, whole]
  rfl

theorem decodeChars_encodeChar_append (c : Char) (rest : List UInt16) :
    decodeChars (encodeChar c ++ rest) = c :: decodeChars rest := by
  have valid : c.toNat < 0xD800 ∨ 0xDFFF < c.toNat ∧ c.toNat < 0x110000 := c.valid
  by_cases small : c.toNat < 0x10000
  · have first : isHigh (.ofNat c.toNat) = false := by
      have whole : (UInt16.ofNat c.toNat).toNat = c.toNat := by
        rw [UInt16.toNat_ofNat', Nat.mod_eq_of_lt (by omega)]
      simp only [isHigh, whole, Bool.and_eq_false_iff, decide_eq_false_iff_not]
      omega
    have own := single_ofNat (n := c.toNat) (by omega) small
    rw [Char.ofNat_toNat] at own
    rw [encodeChar, if_pos small, List.singleton_append]
    cases rest with
    | nil => simp only [decodeChars, own]
    | cons second rest =>
      simp only [decodeChars, first, own, Bool.false_and, Bool.false_eq_true, if_false]
  · have highValue : (UInt16.ofNat (0xD800 + (c.toNat - 0x10000) / 0x400)).toNat =
        0xD800 + (c.toNat - 0x10000) / 0x400 := by
      rw [UInt16.toNat_ofNat', Nat.mod_eq_of_lt (by omega)]
    have lowValue : (UInt16.ofNat (0xDC00 + (c.toNat - 0x10000) % 0x400)).toNat =
        0xDC00 + (c.toNat - 0x10000) % 0x400 := by
      rw [UInt16.toNat_ofNat', Nat.mod_eq_of_lt (by omega)]
    have high : isHigh (.ofNat (0xD800 + (c.toNat - 0x10000) / 0x400)) = true := by
      simp only [isHigh, highValue, Bool.and_eq_true, decide_eq_true_eq]
      omega
    have low : isLow (.ofNat (0xDC00 + (c.toNat - 0x10000) % 0x400)) = true := by
      simp only [isLow, lowValue, Bool.and_eq_true, decide_eq_true_eq]
      omega
    have value : 0x10000 + (0xD800 + (c.toNat - 0x10000) / 0x400 - 0xD800) * 0x400 +
        (0xDC00 + (c.toNat - 0x10000) % 0x400 - 0xDC00) = c.toNat := by omega
    rw [encodeChar, if_neg small]
    simp only [List.cons_append, List.nil_append, decodeChars, high, low, Bool.and_self, if_true,
      paired, highValue, lowValue, value, Char.ofNat_toNat]

theorem decode_encode (s : String) : decode (encode s) = s := by
  have chars : ∀ cs : List Char, decodeChars (cs.flatMap encodeChar) = cs := by
    intro cs
    induction cs with
    | nil => rfl
    | cons c cs ih => rw [List.flatMap_cons, decodeChars_encodeChar_append, ih]
  rw [decode, encode, chars, String.ofList_toList]

end CounterCatalog.Text.Utf16
