set_option autoImplicit false

namespace CounterCatalog.Text

def hasNul (s : String) : Bool := s.toList.contains '\x00'

def beforeNul (s : String) : String := String.ofList (s.toList.takeWhile (· ≠ '\x00'))

/-- Nothing follows the first NUL, which may stand in for the terminator. -/
def isTerminable (s : String) : Bool := (s.toList.dropWhile (· ≠ '\x00')).length ≤ 1

theorem ne_nul_of_not_hasNul {s : String} (h : hasNul s = false) :
    ∀ c ∈ s.toList, decide (c ≠ '\x00') = true := by
  intro c hc
  rw [decide_eq_true_eq]
  rintro rfl
  rw [hasNul, List.contains_iff_mem.mpr hc] at h
  contradiction

theorem beforeNul_eq_self {s : String} (h : hasNul s = false) : beforeNul s = s := by
  have all := @List.takeWhile_append_of_pos _ _ _ [] (ne_nul_of_not_hasNul h)
  rw [List.append_nil, List.takeWhile_nil, List.append_nil] at all
  rw [beforeNul, all, String.ofList_toList]

theorem isTerminable_of_not_hasNul {s : String} (h : hasNul s = false) : isTerminable s := by
  have none := @List.dropWhile_append_of_pos _ _ _ [] (ne_nul_of_not_hasNul h)
  rw [List.append_nil, List.dropWhile_nil] at none
  rw [isTerminable, none]
  rfl

theorem hasNul_beforeNul (s : String) : hasNul (beforeNul s) = false := by
  have all := @List.all_takeWhile _ (fun c => decide (c ≠ '\x00')) s.toList
  rw [hasNul, beforeNul, String.toList_ofList, Bool.eq_false_iff]
  intro found
  have nul := List.all_eq_true.mp all _ (List.contains_iff_mem.mp found)
  exact absurd nul (by decide)

theorem isTerminable_iff (s : String) :
    isTerminable s = true ↔ hasNul s = false ∨ ∃ t, hasNul t = false ∧ s = t.push '\x00' := by
  constructor
  · intro few
    have whole := @List.takeWhile_append_dropWhile _ (fun c => decide (c ≠ '\x00')) s.toList
    have head := List.head?_dropWhile_not (fun c => decide (c ≠ '\x00')) s.toList
    rw [isTerminable, decide_eq_true_eq] at few
    cases rest : s.toList.dropWhile fun c => decide (c ≠ '\x00') with
    | nil =>
      left
      rw [rest, List.append_nil] at whole
      rw [← String.ofList_toList (s := s), ← whole]
      exact hasNul_beforeNul s
    | cons c cs =>
      right
      rw [rest] at few head whole
      cases cs with
      | nil =>
        obtain rfl : c = '\x00' := by simpa using head
        refine ⟨beforeNul s, hasNul_beforeNul s, ?_⟩
        rw [← String.toList_inj, String.toList_push, beforeNul, String.toList_ofList]
        exact whole.symm
      | cons => exact absurd few (by simp)
  · rintro (plain | ⟨t, plain, rfl⟩)
    · exact isTerminable_of_not_hasNul plain
    · rw [isTerminable, String.toList_push,
        List.dropWhile_append_of_pos (ne_nul_of_not_hasNul plain)]
      rfl

end CounterCatalog.Text

namespace CounterCatalog.Text

def isBlank (c : Char) : Bool :=
  let n := c.toNat
  (0x9 ≤ n && n ≤ 0xD) || n == 0x20 || n == 0x85 || n == 0xA0 || n == 0x1680
    || (0x2000 ≤ n && n ≤ 0x200A) || n == 0x2028 || n == 0x2029 || n == 0x202F
    || n == 0x205F || n == 0x3000

def dropBlankEnd (cs : List Char) : List Char := (cs.reverse.dropWhile isBlank).reverse

def trimEnd (s : String) : String := String.ofList (dropBlankEnd s.toList)

def trim (s : String) : String := String.ofList (dropBlankEnd (s.toList.dropWhile isBlank))

end CounterCatalog.Text

namespace CounterCatalog.Text.Numeral

def decimal (n : Nat) : String := String.ofList (Nat.toDigits 10 n)

def padLeft (width : Nat) (fill : Char) (cs : List Char) : List Char :=
  List.replicate (width - cs.length) fill ++ cs

def statusCode (code : UInt32) : String :=
  "0x" ++ String.ofList (padLeft 8 '0' ((Nat.toDigits 16 code.toNat).map Char.toUpper))

def typeCode (code : UInt32) : String :=
  String.ofList (padLeft 10 ' ' ('0' :: 'x' :: Nat.toDigits 16 code.toNat))

def digitsValue (digits : List Char) : Nat :=
  digits.foldl (fun value digit => 10 * value + (digit.toNat - '0'.toNat)) 0

/-- A numeral may begin with one plus sign. -/
def unsigned : List Char → List Char
  | '+' :: digits => digits
  | digits => digits

/-- One or more decimal digits, leading zeros included, with a value below `2 ^ 32`. -/
def word? (text : String) : Option UInt32 :=
  let digits := unsigned text.toList
  if digits ≠ [] ∧ digits.all Char.isDigit ∧ digitsValue digits < UInt32.size then
    some (.ofNat (digitsValue digits))
  else none

end CounterCatalog.Text.Numeral
