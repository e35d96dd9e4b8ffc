import CounterCatalog.Proofs.Counter.Question
import CounterCatalog.System.Script

set_option autoImplicit false

namespace CounterCatalog

open Query

/-- The string has a NUL that cannot be passed. In wide encoding one that is the last character can:
it is taken for the terminator. -/
def Encoding.Refuses (e : Encoding) (s : String) : Prop :=
  Text.hasNul s = true ∧ (e = .wide → ∀ t, Text.hasNul t = false → s ≠ t.push '\x00')

namespace Encoding

theorem argument?_eq_none_iff (e : Encoding) (s : String) : e.argument? s = none ↔ e.Refuses s := by
  cases e with
  | narrow =>
    rw [argument?]
    split
    · next nul => exact ⟨fun _ => ⟨nul, fun wide => absurd wide (by decide)⟩, fun _ => rfl⟩
    · next plain =>
      exact ⟨fun none => absurd none (Option.some_ne_none _), fun refuses => absurd refuses.1 plain⟩
  | wide =>
    rw [argument?]
    split
    · next passes =>
      refine ⟨fun none => absurd none (Option.some_ne_none _), fun refuses => ?_⟩
      rcases (Text.isTerminable_iff s).mp passes with plain | ⟨t, free, last⟩
      · exact absurd refuses.1 (by rw [plain]; decide)
      · exact absurd last (refuses.2 rfl t free)
    · next stops =>
      rw [Text.isTerminable_iff, not_or] at stops
      refine ⟨fun _ => ⟨by simpa using stops.1, fun _ t free last => ?_⟩, fun _ => rfl⟩
      exact stops.2 ⟨t, free, last⟩

theorem optionalArgument?_eq_none_iff (e : Encoding) (text : Option String) :
    e.optionalArgument? text = none ↔ ∃ s ∈ text, e.Refuses s := by
  cases text with
  | none => simp [optionalArgument?]
  | some s => simp [optionalArgument?, argument?_eq_none_iff]

end Encoding

theorem LookupRequest.lend?_eq_none_iff (r : LookupRequest String) :
    r.lend? = none ↔ ∃ s ∈ r.machine, r.encoding.Refuses s := by
  rw [← Encoding.optionalArgument?_eq_none_iff, lend?]
  cases r.encoding.optionalArgument? r.machine <;> simp

def EnumerationRequest.texts (r : EnumerationRequest String) : List String :=
  r.source.toList ++ r.machine.toList ++ [r.object]

theorem EnumerationRequest.lend?_eq_none_iff (r : EnumerationRequest String) :
    r.lend? = none ↔ ∃ s ∈ r.texts, r.encoding.Refuses s := by
  have given : (∃ s ∈ r.texts, r.encoding.Refuses s) ↔
      (∃ s ∈ r.source, r.encoding.Refuses s) ∨ (∃ s ∈ r.machine, r.encoding.Refuses s) ∨
        r.encoding.Refuses r.object := by
    simp [texts, or_and_right, exists_or]
  rw [given, ← Encoding.optionalArgument?_eq_none_iff, ← Encoding.optionalArgument?_eq_none_iff,
    ← Encoding.argument?_eq_none_iff, lend?]
  cases r.encoding.optionalArgument? r.source <;> cases r.encoding.optionalArgument? r.machine <;>
    cases r.encoding.argument? r.object <;> simp

namespace Encoding

theorem getElem?_wideBytes (us : List UInt16) (k : Nat) :
    (wideBytes us)[2 * k]? = us[k]?.map (fun u => .ofNat (u.toNat % 256)) ∧
    (wideBytes us)[2 * k + 1]? = us[k]?.map (fun u => .ofNat (u.toNat / 256)) := by
  induction us generalizing k with
  | nil => exact ⟨rfl, rfl⟩
  | cons u us ih =>
    cases k with
    | zero => exact ⟨rfl, rfl⟩
    | succ k => exact ih k

theorem wideBytes_zeros (k : Nat) : wideBytes (List.replicate k 0) = List.replicate (k * 2) 0 := by
  induction k with
  | zero => rfl
  | succ k ih =>
    rw [List.replicate_succ, Nat.succ_mul]
    change 0 :: 0 :: wideBytes _ = _
    rw [ih]
    rfl

end Encoding

namespace Buffer

/-- The bytes that were written are there, and no other byte has changed. -/
structure HoldsBytes (before : Buffer) (bytes : List UInt8) (after : Buffer) : Prop where
  length : after.length = before.length
  byte : ∀ i, i < before.length →
    after.toList[i]? = if i < bytes.length then bytes[i]? else before.toList[i]?

/-- Two bytes each are a unit that was written, the lower half first, or zero where none was. A last
byte that makes no unit has not changed. -/
structure HoldsUnits (before : Buffer) (units : List UInt16) (after : Buffer) : Prop where
  length : after.length = before.length
  low : ∀ k, k < before.length / 2 →
    after.toList[2 * k]? = some (.ofNat ((units.getD k 0).toNat % 256))
  high : ∀ k, k < before.length / 2 →
    after.toList[2 * k + 1]? = some (.ofNat ((units.getD k 0).toNat / 256))
  odd : before.length % 2 = 1 →
    after.toList[before.length - 1]? = before.toList[before.length - 1]?

theorem holdsBytes_write (b : Buffer) (bytes : List UInt8) :
    b.HoldsBytes bytes (b.write bytes) where
  length := b.length_write bytes
  byte _ inside := b.getElem?_write bytes inside

theorem length_receiveUnits (b : Buffer) (data : List UInt8) :
    (b.receiveUnits data).length = b.length := by
  rw [receiveUnits, overwrite]
  split
  · next same => exact same
  · rfl

theorem toList_receiveUnits (b : Buffer) {us : List UInt16} (fits : us.length ≤ b.length / 2) :
    (b.receiveUnits (Encoding.wideBytes us)).toList =
      Encoding.wideBytes (us ++ List.replicate (b.length / 2 - us.length) 0) ++
        b.toList.drop (b.length / 2 * 2) := by
  have size := Encoding.length_wideBytes us
  rw [receiveUnits, toList_overwrite (by rw [length_write, scratch, length_zeroed]; omega),
    length_write, scratch, length_zeroed, toList_write, length_zeroed, toList_zeroed,
    List.take_of_length_le (by omega), List.drop_replicate, size, Encoding.wideBytes_append,
    Encoding.wideBytes_zeros, Nat.sub_mul]

theorem holdsUnits_receiveUnits (b : Buffer) {us : List UInt16} (fits : us.length ≤ b.length / 2) :
    b.HoldsUnits us (b.receiveUnits (Encoding.wideBytes us)) := by
  have whole := b.toList_receiveUnits fits
  obtain ⟨room, filled⟩ : ∃ room, room = us ++ List.replicate (b.length / 2 - us.length) 0 :=
    ⟨_, rfl⟩
  rw [← filled] at whole
  have count : room.length = b.length / 2 := by
    rw [filled, List.length_append, List.length_replicate]
    omega
  have front : (Encoding.wideBytes room).length = b.length / 2 * 2 := by
    rw [Encoding.length_wideBytes, count]
  have unit : ∀ k, k < b.length / 2 → room[k]? = some (us.getD k 0) := by
    intro k hk
    rw [filled]
    by_cases written : k < us.length
    · rw [List.getElem?_append_left written, List.getD_eq_getElem?_getD,
        List.getElem?_eq_getElem written, Option.getD_some]
    · rw [List.getElem?_append_right (by omega), List.getElem?_replicate_of_lt (by omega),
        List.getD_eq_getElem?_getD, List.getElem?_eq_none (by omega), Option.getD_none]
  refine ⟨b.length_receiveUnits _, fun k hk => ?_, fun k hk => ?_, fun odd => ?_⟩
  · rw [whole, List.getElem?_append_left (by omega), (Encoding.getElem?_wideBytes room k).1,
      unit k hk, Option.map_some]
  · rw [whole, List.getElem?_append_left (by omega), (Encoding.getElem?_wideBytes room k).2,
      unit k hk, Option.map_some]
  · rw [whole, List.getElem?_append_right (by omega), front, List.getElem?_drop]
    congr 1
    omega

end Buffer

def Encoding.Leaves (e : Encoding) (before : Buffer) (units : List UInt16) (after : Buffer) :
    Prop :=
  match e with
  | .narrow => before.HoldsBytes (e.bytes units) after
  | .wide => before.HoldsUnits units after

/-- The slot of a call that wrote this size and these data. The data is there if it fits the
buffer. -/
structure Slot.LeftBy (e : Encoding) (before : Slot) (w : Written) (after : Slot) : Prop where
  size : after.size = w.size.getD before.size
  absent : before.buffer = none → after.buffer = none
  present : ∀ b ∈ before.buffer, ∀ units : List UInt16, w.data = e.bytes units →
    units.length ≤ b.length / e.width → ∃ c ∈ after.buffer, e.Leaves b units c

theorem Slot.leftBy_takeBack (e : Encoding) (s : Slot) (w : Written) :
    s.LeftBy e w (s.takeBack e w) where
  size := Slot.size_takeBack _ _ _
  absent none := by
    cases e with
    | narrow => exact congrArg (Option.map _) none
    | wide => exact congrArg (Option.map _) none
  present b there units data fits := by
    have buffer := Option.mem_def.mp there
    cases e with
    | narrow =>
      refine ⟨b.write (Encoding.narrow.bytes units), ?_, b.holdsBytes_write _⟩
      rw [← data]
      exact congrArg (Option.map _) buffer
    | wide =>
      refine ⟨b.receiveUnits (Encoding.wideBytes units), ?_, b.holdsUnits_receiveUnits fits⟩
      change _ = Encoding.wideBytes units at data
      rw [← data]
      exact congrArg (Option.map _) buffer

theorem Binding.run_native_lookup_refused {r : LookupRequest String} (refused : r.lend? = none)
    (system : System) (past : List Exchange) :
    (Binding.native.lookup r).run system past =
      { value := { status := Status.invalidArgument, name := r.name } } := by
  rw [Binding.lookup, refused]
  rfl

theorem Binding.run_native_lookup {r : LookupRequest String} {lent : LookupRequest (List UInt8)}
    (passes : r.lend? = some lent) (system : System) (past : List Exchange) :
    (Binding.native.lookup r).run system past =
      let reply : LookupReply := system past (.nativeLookup lent)
      { value := { status := reply.status, name := r.name.takeBack r.encoding reply.name }
        exchanges := [⟨.nativeLookup lent, reply⟩] } := by
  rw [Binding.lookup, passes]
  rfl

theorem Binding.run_native_enumerate_refused {r : EnumerationRequest String}
    (refused : r.lend? = none) (system : System) (past : List Exchange) :
    (Binding.native.enumerate r).run system past =
      { value :=
          { status := Status.invalidArgument
            counters := r.counters
            instances := r.instances } } := by
  rw [Binding.enumerate, refused]
  rfl

theorem Binding.run_native_enumerate {r : EnumerationRequest String}
    {lent : EnumerationRequest (List UInt8)} (passes : r.lend? = some lent) (system : System)
    (past : List Exchange) :
    (Binding.native.enumerate r).run system past =
      let reply : EnumerationReply := system past (.nativeEnumerate lent 0)
      { value :=
          { status := reply.status
            counters := r.counters.takeBack r.encoding reply.counters
            instances := r.instances.takeBack r.encoding reply.instances }
        exchanges := [⟨.nativeEnumerate lent 0, reply⟩] } := by
  rw [Binding.enumerate, passes]
  rfl

/-- In narrow encoding a native call changes no byte that it does not write, in wide encoding
every unit that it does not write is zero. A request with a string that cannot be passed changes
nothing. -/
theorem Binding.native_leaves_memory (system : System) (past : List Exchange) :
    (∀ r : LookupRequest String,
      let made := (Binding.native.lookup r).run system past
      ((∃ s ∈ r.machine, r.encoding.Refuses s) →
        made.value = { status := Status.invalidArgument, name := r.name } ∧ made.exchanges = []) ∧
      ((∀ s ∈ r.machine, ¬ r.encoding.Refuses s) → ∃ lent,
        let reply : LookupReply := system past (.nativeLookup lent)
        r.lend? = some lent ∧ made.exchanges = [⟨.nativeLookup lent, reply⟩] ∧
          made.value.status = reply.status ∧
          r.name.LeftBy r.encoding reply.name made.value.name)) ∧
    ∀ r : EnumerationRequest String,
      let made := (Binding.native.enumerate r).run system past
      ((∃ s ∈ r.texts, r.encoding.Refuses s) →
        made.value =
            { status := Status.invalidArgument, counters := r.counters, instances := r.instances } ∧
          made.exchanges = []) ∧
      ((∀ s ∈ r.texts, ¬ r.encoding.Refuses s) → ∃ lent,
        let reply : EnumerationReply := system past (.nativeEnumerate lent 0)
        r.lend? = some lent ∧ made.exchanges = [⟨.nativeEnumerate lent 0, reply⟩] ∧
          made.value.status = reply.status ∧
          r.counters.LeftBy r.encoding reply.counters made.value.counters ∧
          r.instances.LeftBy r.encoding reply.instances made.value.instances) := by
  refine ⟨fun r => ⟨fun refused => ?_, fun passes => ?_⟩,
    fun r => ⟨fun refused => ?_, fun passes => ?_⟩⟩
  · rw [run_native_lookup_refused (r.lend?_eq_none_iff.mpr refused)]
    exact ⟨rfl, rfl⟩
  · obtain ⟨lent, lends⟩ : ∃ lent, r.lend? = some lent := by
      refine Option.ne_none_iff_exists'.mp fun none => ?_
      obtain ⟨s, given, refuses⟩ := r.lend?_eq_none_iff.mp none
      exact passes s given refuses
    rw [run_native_lookup lends]
    exact ⟨lent, lends, rfl, rfl, r.name.leftBy_takeBack _ _⟩
  · rw [run_native_enumerate_refused (r.lend?_eq_none_iff.mpr refused)]
    exact ⟨rfl, rfl⟩
  · obtain ⟨lent, lends⟩ : ∃ lent, r.lend? = some lent := by
      refine Option.ne_none_iff_exists'.mp fun none => ?_
      obtain ⟨s, given, refuses⟩ := r.lend?_eq_none_iff.mp none
      exact passes s given refuses
    rw [run_native_enumerate lends]
    exact ⟨lent, lends, rfl, rfl, r.counters.leftBy_takeBack _ _, r.instances.leftBy_takeBack _ _⟩

theorem Binding.native_leaves_memory_odd :
    let script : Script :=
      { replies := [{ status := 5, name := { size := some 7, data := [0xE9, 0] } }] }
    let filled : Buffer := .ofList [0xEE, 0xEE, 0xEE, 0xEE, 0xEE]
    let asks : LookupRequest String :=
      { encoding := .wide, machine := none, index := 2
        name := { buffer := some filled, size := 2 } }
    let stops : EnumerationRequest String :=
      { encoding := .wide, source := none, machine := none, object := "a\x00b"
        counters := { buffer := some filled, size := 2 }, instances := .probe, detail := 400 }
    (∃ c ∈ ((Binding.native.lookup asks).run script.system []).value.name.buffer,
      filled.HoldsUnits [0xE9] c) ∧
    ((Binding.native.enumerate stops).run script.system []).exchanges = [] := by
  intro script filled asks stops
  obtain ⟨lookups, enumerations⟩ := native_leaves_memory script.system []
  constructor
  · obtain ⟨lent, lends, -, -, left⟩ := (lookups asks).2 nofun
    cases lends
    exact left.present filled rfl [0xE9] rfl (by decide)
  · refine ((enumerations stops).1 ⟨"a\x00b", by decide, by decide, fun _ t free last => ?_⟩).2
    have nul : Text.isTerminable "a\x00b" = true :=
      (Text.isTerminable_iff _).mpr (.inr ⟨t, free, last⟩)
    exact absurd nul (by decide)

/-- In wide encoding a string whose last character is a NUL is passed, in narrow it is not. -/
theorem Binding.trailing_nul_passed :
    let asks (e : Encoding) : LookupRequest String :=
      { encoding := e, machine := some "a\x00", index := 2, name := .probe }
    let made (e : Encoding) := (Binding.native.lookup (asks e)).run ({} : Script).system []
    Text.hasNul "a\x00" = true ∧
      (made .wide).value.status ≠ Status.invalidArgument ∧
      ((made .wide).exchanges.map Exchange.call) = [.nativeLookup
        { encoding := .wide, machine := some [0x61, 0, 0, 0], index := 2, name := .probe }] ∧
      (made .narrow).value.status = Status.invalidArgument ∧ (made .narrow).exchanges = [] := by
  exact ⟨by decide, by decide, by decide, by decide, rfl⟩

end CounterCatalog
