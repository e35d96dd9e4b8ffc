import CounterCatalog.Text.Characters
import Mathlib.Data.List.Induction
import Mathlib.Data.Nat.Digits.Defs

set_option autoImplicit false

namespace CounterCatalog.Text.Numeral

/-- The text is one or more digits of `n`, leading zeros included, behind at most one plus sign. -/
def IsNumeral (text : String) (n : Nat) : Prop :=
  ∃ sign digits : List Char, text.toList = sign ++ digits ∧ (sign = [] ∨ sign = ['+']) ∧
    digits ≠ [] ∧ (∀ c ∈ digits, '0' ≤ c ∧ c ≤ '9') ∧
    Nat.ofDigits 10 (digits.reverse.map fun c => c.toNat - '0'.toNat) = n

theorem digitsValue_eq_ofDigits (digits : List Char) :
    digitsValue digits = Nat.ofDigits 10 (digits.reverse.map fun c => c.toNat - '0'.toNat) := by
  induction digits using List.reverseRecOn with
  | nil => rfl
  | append_singleton digits digit ih =>
    rw [List.reverse_append, List.reverse_singleton, List.singleton_append, List.map_cons,
      Nat.ofDigits_cons, ← ih, digitsValue, List.foldl_append, Nat.add_comm]
    rfl

theorem unsigned_of_digits {digits : List Char} (h : digits.all Char.isDigit = true) :
    unsigned digits = digits := by
  unfold unsigned
  split
  · rw [List.all_cons] at h
    cases h
  · rfl

theorem exists_sign (cs : List Char) :
    ∃ sign, cs = sign ++ unsigned cs ∧ (sign = [] ∨ sign = ['+']) := by
  unfold unsigned
  split
  · exact ⟨['+'], rfl, .inr rfl⟩
  · exact ⟨[], rfl, .inl rfl⟩

theorem all_isDigit_iff (digits : List Char) :
    digits.all Char.isDigit = true ↔ ∀ c ∈ digits, '0' ≤ c ∧ c ≤ '9' := by
  simp only [List.all_eq_true, Char.isDigit, Bool.and_eq_true, decide_eq_true_eq]
  rfl

theorem word?_eq_some_iff {text : String} {n : UInt32} :
    word? text = some n ↔ IsNumeral text n.toNat := by
  constructor
  · intro read
    rw [word?] at read
    split at read
    · next valid =>
      obtain ⟨some, digits, small⟩ := valid
      obtain ⟨sign, whole, plus⟩ := exists_sign text.toList
      refine ⟨sign, unsigned text.toList, whole, plus, some, (all_isDigit_iff _).mp digits, ?_⟩
      rw [← digitsValue_eq_ofDigits, ← Option.some.inj read, UInt32.toNat_ofNat',
        Nat.mod_eq_of_lt small]
    · cases read
  · rintro ⟨sign, digits, whole, plus, some, valid, value⟩
    rw [← all_isDigit_iff] at valid
    rw [← digitsValue_eq_ofDigits] at value
    have own : unsigned text.toList = digits := by
      rw [whole]
      rcases plus with rfl | rfl
      · exact unsigned_of_digits valid
      · rfl
    rw [word?, own, value, if_pos ⟨some, valid, n.toNat_lt⟩, UInt32.ofNat_toNat]

theorem all_isDigit_toDigits (n : Nat) : (Nat.toDigits 10 n).all Char.isDigit = true :=
  List.all_eq_true.mpr fun _ digit => Nat.isDigit_of_mem_toDigits (by decide) (by decide) digit

theorem digitsValue_toDigits (n : Nat) : digitsValue (Nat.toDigits 10 n) = n :=
  Nat.ofDigitChars_ten_toDigits

theorem word?_decimal (n : UInt32) : word? (decimal n.toNat) = some n := by
  have small : n.toNat < UInt32.size := n.toNat_lt
  have digits := all_isDigit_toDigits n.toNat
  rw [word?, decimal, String.toList_ofList, unsigned_of_digits digits]
  rw [digitsValue_toDigits, if_pos ⟨Nat.toDigits_ne_nil, digits, small⟩, UInt32.ofNat_toNat]

def upperDigit (d : Nat) : Char := "0123456789ABCDEF".toList.getD d '0'

/-- The text is `n` in eight upper-case hexadecimal digits. -/
def IsWordCode (text : String) (n : Nat) : Prop :=
  ∃ digits : List Nat, digits.length = 8 ∧ (∀ d ∈ digits, d < 16) ∧
    Nat.ofDigits 16 digits.reverse = n ∧ text = String.ofList (digits.map upperDigit)

def filledDigits (width n : Nat) : List Char :=
  padLeft width '0' ((Nat.toDigits 16 n).map Char.toUpper)

theorem toUpper_digitChar {d : Nat} (small : d < 16) :
    (Nat.digitChar d).toUpper = upperDigit d := by
  have all : ∀ i : Fin 16, (Nat.digitChar i).toUpper = upperDigit i := by decide
  exact all ⟨d, small⟩

theorem padLeft_append_singleton (width : Nat) (fill c : Char) (cs : List Char) :
    padLeft (width + 1) fill (cs ++ [c]) = padLeft width fill cs ++ [c] := by
  rw [padLeft, padLeft, List.length_append, List.length_singleton, Nat.add_sub_add_right,
    List.append_assoc]

theorem filledDigits_zero (width : Nat) :
    filledDigits (width + 1) 0 = padLeft (width + 1) '0' [] := by
  change padLeft (width + 1) '0' ([] ++ ['0']) = _
  rw [padLeft_append_singleton, padLeft, padLeft, List.append_nil, List.append_nil]
  exact List.replicate_succ'.symm

theorem filledDigits_succ (width n : Nat) :
    filledDigits (width + 2) n = filledDigits (width + 1) (n / 16) ++ [upperDigit (n % 16)] := by
  rw [← toUpper_digitChar (Nat.mod_lt n (by decide))]
  by_cases small : n < 16
  · rw [Nat.div_eq_of_lt small, Nat.mod_eq_of_lt small, filledDigits_zero, filledDigits,
      Nat.toDigits_of_lt_base small]
    exact padLeft_append_singleton _ _ _ []
  · rw [filledDigits, Nat.toDigits_of_base_le (by decide) (Nat.le_of_not_lt small),
      List.map_append]
    exact padLeft_append_singleton _ _ _ _

theorem exists_digits_filledDigits {width n : Nat} (small : n < 16 ^ (width + 1)) :
    ∃ digits : List Nat, digits.length = width + 1 ∧ (∀ d ∈ digits, d < 16) ∧
      Nat.ofDigits 16 digits.reverse = n ∧ filledDigits (width + 1) n = digits.map upperDigit := by
  induction width generalizing n with
  | zero =>
    rw [Nat.zero_add, Nat.pow_one] at small
    refine ⟨[n], rfl, by simpa using small, by simp, ?_⟩
    rw [filledDigits, Nat.toDigits_of_lt_base small, List.map_singleton, List.map_singleton,
      toUpper_digitChar small]
    rfl
  | succ width ih =>
    obtain ⟨digits, length, below, value, written⟩ := @ih (n / 16) (by omega)
    refine ⟨digits ++ [n % 16], ?_, ?_, ?_, ?_⟩
    · rw [List.length_append, length, List.length_singleton]
    · intro d hd
      rcases List.mem_append.mp hd with front | last
      · exact below d front
      · rw [List.mem_singleton.mp last]
        exact Nat.mod_lt n (by decide)
    · rw [List.reverse_append, List.reverse_singleton, List.singleton_append, Nat.ofDigits_cons,
        value]
      exact Nat.mod_add_div n 16
    · rw [filledDigits_succ, written, List.map_append, List.map_singleton]

theorem statusCode_eq (code : UInt32) :
    ∃ text, statusCode code = "0x" ++ text ∧ IsWordCode text code.toNat := by
  obtain ⟨digits, length, below, value, written⟩ :=
    @exists_digits_filledDigits 7 code.toNat code.toNat_lt
  exact ⟨_, rfl, digits, length, below, value, congrArg String.ofList written⟩

end CounterCatalog.Text.Numeral
