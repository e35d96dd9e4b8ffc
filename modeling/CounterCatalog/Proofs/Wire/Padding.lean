import CounterCatalog.Counter.Client
import CounterCatalog.Proofs.Wire.Encoding
import CounterCatalog.Wire.Content

set_option autoImplicit false

namespace CounterCatalog

namespace Wire

theorem stringUnits_append_padding (us : List UInt16) (n : Nat) :
    stringUnits (us ++ List.replicate n 0) = stringUnits us := by
  unfold stringUnits
  induction us with
  | nil => cases n <;> rfl
  | cons u us ih =>
    by_cases h : u = 0
    · subst h
      rfl
    · rw [List.cons_append, List.takeWhile_cons_of_pos (by simpa using h), ih,
        List.takeWhile_cons_of_pos (by simpa using h)]

theorem entriesFrom_append_padding (pending us : List UInt16) (n : Nat) :
    entriesFrom pending (us ++ List.replicate n 0) = entriesFrom pending us := by
  have none : ∀ n, entriesFrom [] (List.replicate n 0) = [] := fun n => by cases n <;> rfl
  induction us generalizing pending with
  | nil =>
    cases n with
    | zero => rfl
    | succ n => simp only [List.nil_append, List.replicate_succ, entriesFrom, none, if_true]
  | cons u us ih => simp only [List.cons_append, entriesFrom, ih]

end Wire

namespace Encoding

variable {e : Encoding}

theorem units_append {data : List UInt8} (whole : e.width ∣ data.length) (rest : List UInt8) :
    e.units (data ++ rest) = e.units data ++ e.units rest := by
  cases e with
  | narrow => exact List.map_append
  | wide =>
    change 2 ∣ data.length at whole
    change wideUnits (data ++ rest) = wideUnits data ++ wideUnits rest
    induction data using wideUnits.induct with
    | case1 low high data ih =>
      have even : 2 ∣ data.length := by
        rw [List.length_cons, List.length_cons] at whole
        omega
      rw [List.cons_append, List.cons_append, wideUnits, wideUnits, ih even, List.cons_append]
    | case2 data short =>
      rcases data with - | ⟨low, - | ⟨high, data⟩⟩
      · rfl
      · change 2 ∣ 1 at whole
        omega
      · exact absurd rfl (short low high data)

theorem units_zeros (n : Nat) :
    e.units (List.replicate n 0) = List.replicate (n / e.width) 0 := by
  cases e with
  | narrow =>
    change (List.replicate n 0).map _ = List.replicate (n / 1) 0
    rw [List.map_replicate, Nat.div_one]
    rfl
  | wide => exact wideUnits_zeros n

end Encoding

/-- The bytes of a zeroed buffer for so many units once the data was written to it, as much of it as
there is room for. -/
def Encoding.filled (e : Encoding) (size : UInt32) (data : List UInt8) : List UInt8 :=
  data.take (e.byteLength size) ++ List.replicate (e.byteLength size - data.length) 0

theorem Buffer.toList_write_zeroed (e : Encoding) (size : UInt32) (data : List UInt8) :
    ((zeroed (e.byteLength size)).write data).toList = e.filled size data := by
  rw [toList_write, length_zeroed, toList_zeroed, List.drop_replicate, Encoding.filled]

theorem Encoding.length_units (e : Encoding) (bytes : List UInt8) :
    (e.units bytes).length = bytes.length / e.width := by
  cases e with
  | narrow =>
    change (bytes.map _).length = bytes.length / 1
    rw [List.length_map, Nat.div_one]
  | wide =>
    change (wideUnits bytes).length = bytes.length / 2
    induction bytes using wideUnits.induct with
    | case1 low high rest ih =>
      rw [wideUnits, List.length_cons, List.length_cons, List.length_cons, ih]
      omega
    | case2 bytes short =>
      rcases bytes with - | ⟨low, - | ⟨high, rest⟩⟩
      · rfl
      · exact (Nat.div_eq_of_lt Nat.one_lt_two).symm
      · exact absurd rfl (short low high rest)

theorem Encoding.length_units_filled (e : Encoding) (size : UInt32) (data : List UInt8) :
    (e.units (e.filled size data)).length = size.toNat := by
  have length : (e.filled size data).length = size.toNat * e.width := by
    rw [filled, List.length_append, List.length_take, List.length_replicate, byteLength]
    omega
  rw [length_units, length, Nat.mul_div_cancel _ e.width_pos]

namespace Slot

variable (e : Encoding) (size : UInt32) (w : Written)

theorem stringUnits_receive :
    Wire.stringUnits (e.units ((allocate e size).receive w).content) =
      Wire.stringUnits (e.units (e.filled size w.data)) := by
  change Wire.stringUnits (e.units (Buffer.content _)) = _
  rw [Buffer.stringUnits_content, Buffer.toList_write_zeroed]

theorem entries_receive :
    Wire.entries (e.units ((Client.listSlot e size).receive w).content) =
      if size = 0 then [] else Wire.entries (e.units (e.filled size w.data)) := by
  unfold Client.listSlot
  split
  · rw [show (probe.receive w).content = [] from rfl, e.units_nil]
    rfl
  · change Wire.entries (e.units (Buffer.content _)) = _
    rw [Buffer.entries_content, Buffer.toList_write_zeroed]

end Slot

structure Roomy (e : Encoding) (size : UInt32) (data : List UInt8) : Prop where
  whole : e.width ∣ data.length
  fits : data.length ≤ e.byteLength size

namespace Roomy

variable {e : Encoding} {size : UInt32} {w : Written}

theorem units_filled (h : Roomy e size w.data) : ∃ n,
    e.units (e.filled size w.data) = e.units w.data ++ List.replicate n 0 := by
  refine ⟨(e.byteLength size - w.data.length) / e.width, ?_⟩
  rw [Encoding.filled, List.take_of_length_le h.fits, Encoding.units_append h.whole,
    Encoding.units_zeros]

theorem stringUnits_receive (h : Roomy e size w.data) :
    Wire.stringUnits (e.units ((Slot.allocate e size).receive w).content) =
      Wire.stringUnits (e.units w.data) := by
  obtain ⟨n, padded⟩ := h.units_filled
  rw [Slot.stringUnits_receive, padded, Wire.stringUnits_append_padding]

theorem entries_receive (h : Roomy e size w.data) :
    Wire.entries (e.units ((Client.listSlot e size).receive w).content) =
      Wire.entries (e.units w.data) := by
  rw [Slot.entries_receive]
  split
  · next none =>
    -- No data fits a list of no size but none.
    have empty : w.data = [] := by
      have fits := h.fits
      rw [none, Encoding.byteLength, UInt32.toNat_zero, Nat.zero_mul] at fits
      exact List.eq_nil_of_length_eq_zero (Nat.le_zero.mp fits)
    rw [empty, e.units_nil]
    rfl
  · obtain ⟨n, padded⟩ := h.units_filled
    rw [padded]
    exact Wire.entriesFrom_append_padding _ _ _

variable (p : Platform)

theorem readString_receive (h : Roomy e size w.data) :
    Wire.readString p e ((Slot.allocate e size).receive w).content =
      Wire.readString p e w.data := by
  simp only [Wire.readString, h.stringUnits_receive]

theorem readList_receive (h : Roomy e size w.data) :
    Wire.readList p e ((Client.listSlot e size).receive w).content =
      Wire.readList p e w.data := by
  rw [Wire.readList, Wire.readList, h.entries_receive]

end Roomy

end CounterCatalog
