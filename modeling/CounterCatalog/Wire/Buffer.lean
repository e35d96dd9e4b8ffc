set_option autoImplicit false

/-!
Only the leading bytes of a buffer are stored, and every byte behind them is zero, so that a large
buffer which little was written to stays small. `toList` is the view: all its bytes in order.
-/
namespace CounterCatalog

structure Buffer where
  lead : List UInt8
  length : Nat
  fits : lead.length ≤ length := by simp
  deriving DecidableEq, Repr

namespace Buffer

def toList (b : Buffer) : List UInt8 := b.lead ++ List.replicate (b.length - b.lead.length) 0

def zeroed (length : Nat) : Buffer := { lead := [], length }

def ofList (bytes : List UInt8) : Buffer := { lead := bytes, length := bytes.length }

instance : Inhabited Buffer := ⟨zeroed 0⟩

/-- Overwrites the start of the buffer; data that does not fit is cut. -/
def write (b : Buffer) (data : List UInt8) : Buffer where
  lead := data.take b.length ++ b.lead.drop (data.take b.length).length
  length := b.length
  fits := by
    have := b.fits
    simp only [List.length_append, List.length_drop, List.length_take]
    omega

def resize (b : Buffer) (length : Nat) : Buffer where
  lead := b.lead.take length
  length := length
  fits := by simp only [List.length_take]; omega

def truncate (b : Buffer) (length : Nat) : Buffer := b.resize (min length b.length)

def overwrite (b c : Buffer) : Buffer := if c.length = b.length then c else b.write c.toList

/-- The stored bytes, and behind them no more zeros than it takes to end the last string. -/
def content (b : Buffer) : List UInt8 :=
  b.lead ++ List.replicate (min 4 (b.length - b.lead.length)) 0

@[simp] theorem length_toList (b : Buffer) : b.toList.length = b.length := by
  have := b.fits
  simp only [toList, List.length_append, List.length_replicate]
  omega

@[simp] theorem length_zeroed (n : Nat) : (zeroed n).length = n := rfl

@[simp] theorem length_write (b : Buffer) (data : List UInt8) :
    (b.write data).length = b.length := rfl

@[simp] theorem length_resize (b : Buffer) (n : Nat) : (b.resize n).length = n := rfl

@[simp] theorem length_truncate (b : Buffer) (n : Nat) :
    (b.truncate n).length = min n b.length := rfl

@[simp] theorem toList_zeroed (n : Nat) : (zeroed n).toList = List.replicate n 0 := by
  simp [toList, zeroed]

theorem toList_write (b : Buffer) (data : List UInt8) :
    (b.write data).toList = data.take b.length ++ b.toList.drop data.length := by
  have fits := b.fits
  change (data.take b.length ++ b.lead.drop (data.take b.length).length) ++
      List.replicate (b.length - (data.take b.length ++
        b.lead.drop (data.take b.length).length).length) 0 =
    data.take b.length ++ (b.lead ++ List.replicate (b.length - b.lead.length) 0).drop data.length
  rw [List.append_assoc, List.drop_append, List.drop_replicate, List.length_append,
    List.length_drop, List.length_take]
  congr 1
  by_cases h : data.length ≤ b.length
  · rw [Nat.min_eq_right h]
    congr 2
    omega
  · rw [Nat.min_eq_left (by omega), List.drop_eq_nil_of_le fits, List.drop_eq_nil_of_le (by omega)]
    congr 2
    omega

theorem toList_overwrite {b c : Buffer} (h : c.length ≤ b.length) :
    (b.overwrite c).toList = c.toList ++ b.toList.drop c.length := by
  rw [overwrite]
  split
  · next same =>
    rw [List.drop_eq_nil_of_le (by rw [length_toList]; omega), List.append_nil]
  · rw [toList_write, length_toList, List.take_of_length_le (by rw [length_toList]; exact h)]

theorem toList_resize (b : Buffer) (n : Nat) :
    (b.resize n).toList = b.toList.take n ++ List.replicate (n - b.length) 0 := by
  have fits := b.fits
  change b.lead.take n ++ List.replicate (n - (b.lead.take n).length) 0 =
    (b.lead ++ List.replicate (b.length - b.lead.length) 0).take n ++
      List.replicate (n - b.length) 0
  rw [List.take_append, List.append_assoc, List.take_replicate, List.replicate_append_replicate,
    List.length_take]
  congr 2
  omega

theorem toList_truncate (b : Buffer) (n : Nat) : (b.truncate n).toList = b.toList.take n := by
  rw [truncate, toList_resize, Nat.sub_eq_zero_of_le (Nat.min_le_right _ _), List.replicate_zero,
    List.append_nil]
  by_cases h : n ≤ b.length
  · rw [Nat.min_eq_left h]
  · rw [Nat.min_eq_right (by omega), List.take_of_length_le (by simp),
      List.take_of_length_le (by simp; omega)]

theorem getElem?_write (b : Buffer) (data : List UInt8) {i : Nat} (inside : i < b.length) :
    (b.write data).toList[i]? = if i < data.length then data[i]? else b.toList[i]? := by
  rw [toList_write]
  split
  · next written =>
    rw [List.getElem?_append_left (by rw [List.length_take]; omega),
      List.getElem?_take_of_lt inside]
  · next kept =>
    rw [List.getElem?_append_right (by rw [List.length_take]; omega), List.getElem?_drop,
      List.length_take, Nat.min_eq_right (by omega), Nat.add_sub_cancel' (by omega)]

theorem getElem?_resize (b : Buffer) {n i : Nat} (inside : i < n) :
    (b.resize n).toList[i]? = some (b.toList.getD i 0) := by
  rw [toList_resize, List.getD_eq_getElem?_getD]
  by_cases old : i < b.length
  · rw [List.getElem?_append_left (by rw [List.length_take, length_toList]; omega),
      List.getElem?_take_of_lt inside, List.getElem?_eq_getElem (by rw [length_toList]; exact old),
      Option.getD_some]
  · rw [List.getElem?_append_right (by rw [List.length_take, length_toList]; omega),
      List.length_take, length_toList, List.getElem?_replicate_of_lt (by omega),
      List.getElem?_eq_none (by rw [length_toList]; omega), Option.getD_none]

theorem resize_truncate_zero (b : Buffer) (n : Nat) : (b.truncate 0).resize n = zeroed n := by
  have empty : (b.truncate 0).lead = [] := by
    change b.lead.take (min 0 b.length) = []
    rw [Nat.zero_min, List.take_zero]
  simp only [resize, zeroed, empty, List.take_nil]

end Buffer

end CounterCatalog
