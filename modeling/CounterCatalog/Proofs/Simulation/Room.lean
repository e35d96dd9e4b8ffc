import CounterCatalog.Proofs.Wire.Padding
import CounterCatalog.System.Simulation

set_option autoImplicit false

namespace CounterCatalog.Simulation

def unitCount (e : Encoding) (data : List UInt8) : UInt32 := .ofNat (data.length / e.width)

structure Countable (e : Encoding) (data : List UInt8) : Prop where
  whole : data.length / e.width * e.width = data.length
  few : data.length / e.width < UInt32.size

theorem fits_probe (data : List UInt8) : fits .probe data = data.isEmpty := rfl

section Rooms
variable {e : Encoding} {data : List UInt8}

theorem Countable.byteLength_unitCount (h : Countable e data) :
    e.byteLength (unitCount e data) = data.length := by
  rw [Encoding.byteLength, unitCount, UInt32.toNat_ofNat', Nat.mod_eq_of_lt h.few, h.whole]

theorem Countable.unitCount_eq_zero_iff (h : Countable e data) :
    unitCount e data = 0 ↔ data = [] := by
  constructor
  · intro none
    have length := h.byteLength_unitCount
    rw [none, Encoding.byteLength, UInt32.toNat_zero, Nat.zero_mul] at length
    exact List.eq_nil_of_length_eq_zero length.symm
  · rintro rfl
    rw [unitCount, List.length_nil, Nat.zero_div]
    rfl

theorem Countable.fits_allocate (h : Countable e data) :
    fits (.allocate e (unitCount e data)) data = true := by
  have length := h.byteLength_unitCount
  simp [fits, Slot.allocate, length]

theorem Countable.roomy (h : Countable e data) : Roomy e (unitCount e data) data where
  whole := ⟨data.length / e.width, by rw [Nat.mul_comm, h.whole]⟩
  fits := Nat.le_of_eq h.byteLength_unitCount.symm

theorem Countable.fits_listSlot (h : Countable e data) :
    fits (Client.listSlot e (unitCount e data)) data = true := by
  unfold Client.listSlot
  split
  · next none =>
    rw [fits_probe, h.unitCount_eq_zero_iff.mp none]
    rfl
  · exact h.fits_allocate

theorem data_fill {slot : Slot} (h : fits slot data = true) : (fill e slot data).data = data := by
  rw [fill, h]
  rfl

theorem Countable.stringUnits_receive (h : Countable e data) :
    Wire.stringUnits (e.units ((Slot.allocate e (unitCount e data)).receive
      (fill e (.allocate e (unitCount e data)) data)).content) =
    Wire.stringUnits (e.units data) := by
  have written := data_fill (e := e) h.fits_allocate
  rw [Roomy.stringUnits_receive (by rw [written]; exact h.roomy), written]

theorem Countable.entries_receive (h : Countable e data) :
    Wire.entries (e.units ((Client.listSlot e (unitCount e data)).receive
      (fill e (Client.listSlot e (unitCount e data)) data)).content) =
    Wire.entries (e.units data) := by
  have written := data_fill (e := e) h.fits_listSlot
  rw [Roomy.entries_receive (by rw [written]; exact h.roomy), written]

theorem Countable.isNone_listSlot (h : Countable e data) :
    (Client.listSlot e (unitCount e data)).buffer.isNone = data.isEmpty := by
  unfold Client.listSlot
  split
  · next none =>
    rw [h.unitCount_eq_zero_iff.mp none]
    rfl
  · next some =>
    rw [h.unitCount_eq_zero_iff] at some
    simpa [Slot.allocate] using some

end Rooms

theorem countable_wideBytes {us : List UInt16}
    (few : (Encoding.wideBytes us).length / 2 < UInt32.size) :
    Countable .wide (Encoding.wideBytes us) where
  whole := by
    rw [Encoding.length_wideBytes]
    change us.length * 2 / 2 * 2 = us.length * 2
    omega
  few := few

theorem listBytes_wide {texts : List String} (some : texts ≠ []) :
    listBytes .wide texts =
      Encoding.wideBytes (Wire.listUnits (texts.map Text.Utf16.encode)) := by
  have strings : texts.flatMap (stringBytes .wide) =
      Encoding.wideBytes ((texts.map Text.Utf16.encode).flatMap (· ++ [0])) := by
    clear some
    induction texts with
    | nil => rfl
    | cons s texts ih =>
      rw [List.flatMap_cons, List.map_cons, List.flatMap_cons, Encoding.wideBytes_append,
        Encoding.wideBytes_append, ih]
      rfl
  rw [listBytes, if_neg some, Wire.listUnits, Encoding.wideBytes_append, strings]
  rfl

theorem isEmpty_listBytes (texts : List String) :
    (listBytes .wide texts).isEmpty = texts.isEmpty := by
  cases texts with
  | nil => rfl
  | cons s texts =>
    rw [listBytes_wide (List.cons_ne_nil s texts), Wire.listUnits, Encoding.wideBytes_append]
    simp [Encoding.wideBytes]

theorem nameBytes_wide {name : String} (some : name ≠ "") :
    nameBytes .wide name = Encoding.wideBytes (Text.Utf16.encode name ++ [0]) := by
  rw [nameBytes, if_neg some, Encoding.wideBytes_append]
  rfl

end CounterCatalog.Simulation
