import CounterCatalog.Proofs.Counter.Question
import Mathlib.Data.List.Forall2

set_option autoImplicit false

/-!
# The native binding as a mirror of the direct one

`Exchange.Mirrors` says which native call stands for which direct one: the same call with its
strings as terminated bytes, answered alike. Two systems mirror each other if they answer such
calls alike behind such histories. Then a question to the one, put natively, is in all that can be
seen of it the question to the other, put directly; the units that the native binding lends in
between leave no trace.
-/
namespace CounterCatalog

open Query

def LookupRequest.passed (r : LookupRequest String) : LookupRequest (List UInt8) where
  encoding := r.encoding
  machine := r.machine.map r.encoding.passed
  index := r.index
  name := r.name

def EnumerationRequest.passed (r : EnumerationRequest String) :
    EnumerationRequest (List UInt8) where
  encoding := r.encoding
  source := r.source.map r.encoding.passed
  machine := r.machine.map r.encoding.passed
  object := r.encoding.passed r.object
  counters := r.counters
  instances := r.instances
  detail := r.detail

/-- Two replies that have the same status and make the same of the slot. -/
structure LookupRequest.Alike (r : LookupRequest String) (reply other : LookupReply) : Prop where
  status : reply.status = other.status
  name : r.name.receive reply.name = r.name.receive other.name

structure EnumerationRequest.Alike (r : EnumerationRequest String)
    (reply other : EnumerationReply) : Prop where
  status : reply.status = other.status
  counters : r.counters.receive reply.counters = r.counters.receive other.counters
  instances : r.instances.receive reply.instances = r.instances.receive other.instances

/-- The first exchange is natively what the second one is directly. -/
inductive Exchange.Mirrors : Exchange → Exchange → Prop where
  | lookup (r : LookupRequest String) (native direct : LookupReply)
      (alike : r.Alike native direct) :
      Mirrors ⟨.nativeLookup r.passed, native⟩ ⟨.lookup r, direct⟩
  | enumerate (r : EnumerationRequest String) (native direct : EnumerationReply)
      (alike : r.Alike native direct) :
      Mirrors ⟨.nativeEnumerate r.passed 0, native⟩ ⟨.enumerate r, direct⟩
  | same (e : Exchange) (other : e.call.kind ≠ .counters) : Mirrors e e

structure Observed.Mirrors {α : Type} (native direct : Observed α) : Prop where
  value : native.value = direct.value
  exchanges : List.Forall₂ Exchange.Mirrors native.exchanges direct.exchanges
  log : native.log = direct.log

/-- The slots that questions are put with: no buffer, or zeroed room for the units of the size. -/
inductive Slot.Fresh (e : Encoding) : Slot → Prop where
  | probe : Fresh e .probe
  | allocate (units : UInt32) : Fresh e (.allocate e units)

namespace Slot

variable {e : Encoding} {s : Slot}

theorem fresh_listSlot (e : Encoding) (units : UInt32) : (Client.listSlot e units).Fresh e := by
  unfold Client.listSlot
  split
  · exact .probe
  · exact .allocate units

theorem Fresh.lend (h : s.Fresh e) : s.lend e = s := by
  cases h with
  | probe => exact lend_probe e
  | allocate units => exact lend_allocate e units

/-- Whatever is written to the units that were lent, and however long it is, the slot ends up as if
it had been written to the slot itself. -/
theorem Fresh.takeBack (h : s.Fresh e) (w : Written) : s.takeBack e w = s.receive w := by
  cases e with
  | narrow => rfl
  | wide =>
    cases h with
    | probe => rfl
    | allocate units =>
      have whole : units.toNat * 2 / 2 * 2 = units.toNat * 2 := by omega
      change Slot.mk (some ((Buffer.zeroed (units.toNat * 2)).receiveUnits w.data)) _ =
        Slot.mk (some ((Buffer.zeroed (units.toNat * 2)).write w.data)) _
      rw [Buffer.receiveUnits, Buffer.scratch, Buffer.length_zeroed, whole, Buffer.overwrite,
        if_pos (Buffer.length_write _ _)]

end Slot

/-- The first system answers native calls as the second one answers direct ones, and both answer
all other calls the same. -/
structure System.Mirrors (native direct : System) : Prop where
  lookup : ∀ past other, List.Forall₂ Exchange.Mirrors past other →
    ∀ r : LookupRequest String, r.name.Fresh r.encoding →
      r.Alike (native past (.nativeLookup r.passed)) (direct other (.lookup r))
  enumerate : ∀ past other, List.Forall₂ Exchange.Mirrors past other →
    ∀ r : EnumerationRequest String, r.counters.Fresh r.encoding →
      r.instances.Fresh r.encoding →
      r.Alike (native past (.nativeEnumerate r.passed 0)) (direct other (.enumerate r))
  same : ∀ past other, List.Forall₂ Exchange.Mirrors past other →
    ∀ call : Call, call.kind ≠ .counters → native past call = direct other call

namespace Query

/-- Behind mirrored histories the runs of the two queries are mirrored. -/
def Mirrors (system service : System) {α : Type} (native direct : Query α) : Prop :=
  ∀ past other, List.Forall₂ Exchange.Mirrors past other →
    (native.run system past).Mirrors (direct.run service other)

section Closure
variable {α β : Type} {system service : System}

theorem Mirrors.pure (value : α) :
    Mirrors system service (Pure.pure value : Query α) (Pure.pure value) :=
  fun _ _ _ => ⟨rfl, .nil, rfl⟩

theorem Mirrors.say (level : Level) (text : String) :
    Mirrors system service (Query.say level text) (Query.say level text) :=
  fun _ _ _ => ⟨rfl, .nil, rfl⟩

theorem Mirrors.bind {native direct : Query α} {next later : α → Query β}
    (first : Mirrors system service native direct)
    (rest : ∀ value, Mirrors system service (next value) (later value)) :
    Mirrors system service (native >>= next) (direct >>= later) := by
  intro past other related
  have here := first past other related
  have there := rest (native.run system past).value _ _ (List.rel_append related here.exchanges)
  rw [run_bind, run_bind, ← here.value, ← here.log]
  refine ⟨there.value, List.rel_append here.exchanges there.exchanges, ?_⟩
  change _ ++ _ = _ ++ _
  rw [there.log]

theorem Only.mirrors (mirror : system.Mirrors service) {q : Query α}
    (h : Only (·.kind ≠ .counters) q) : Mirrors system service q q := by
  induction h with
  | pure value => exact .pure value
  | say level text => exact .say level text
  | @ask call other =>
    intro past before related
    have answer := mirror.same past before related call other
    rw [run_ask, run_ask, answer]
    exact ⟨rfl, .cons (.same _ other) .nil, rfl⟩
  | bind _ _ first rest => exact .bind first rest

end Closure

end Query

namespace Client

def direct (encoding : Encoding) : Client where
  platform := .windows
  binding := .direct
  encoding := encoding

section Questions
variable {system service : System} (mirror : system.Mirrors service) (e : Encoding)
include mirror

theorem mirrors_askName {machine : Option String}
    (plain : ∀ s ∈ machine, Text.hasNul s = false) (index : UInt32) {slot : Slot}
    (fresh : slot.Fresh e) :
    Query.Mirrors system service ((native e).askName machine index slot)
      ((direct e).askName machine index slot) := by
  intro past other related
  let request : LookupRequest String := { encoding := e, machine, index, name := slot }
  have alike := mirror.lookup past other related request fresh
  have ran := (native e).run_askName_native rfl (e.optionalArgument?_eq_passed plain) index
    fresh.lend system past
  rw [ran]
  refine ⟨?_, .cons (.lookup request _ _ alike) .nil, rfl⟩
  change LookupOutcome.mk _ (slot.takeBack e _) = LookupOutcome.mk _ (slot.receive _)
  rw [fresh.takeBack]
  exact congrArg₂ LookupOutcome.mk alike.status alike.name

theorem mirrors_askItems {s : Subject} (plain : s.Plain) {counters instances : Slot}
    (freshCounters : counters.Fresh e) (freshInstances : instances.Fresh e) :
    Query.Mirrors system service ((native e).askItems s counters instances)
      ((direct e).askItems s counters instances) := by
  intro past other related
  let request : EnumerationRequest String :=
    { encoding := e, source := s.source, machine := s.machine, object := s.object
      counters, instances, detail := s.detail }
  have alike := mirror.enumerate past other related request freshCounters freshInstances
  have ran := (native e).run_askItems_native rfl s (e.optionalArgument?_eq_passed plain.source)
    (e.optionalArgument?_eq_passed plain.machine) (e.argument?_eq_passed plain.object)
    freshCounters.lend freshInstances.lend system past
  rw [ran]
  refine ⟨?_, .cons (.enumerate request _ _ alike) .nil, rfl⟩
  change EnumerationOutcome.mk _ (counters.takeBack e _) (instances.takeBack e _) =
    EnumerationOutcome.mk _ (counters.receive _) (instances.receive _)
  rw [freshCounters.takeBack, freshInstances.takeBack]
  exact congr (congrArg₂ EnumerationOutcome.mk alike.status alike.counters) alike.instances

theorem mirrors_fail {α : Type} (status : UInt32) (comment : String) :
    Query.Mirrors system service ((native e).fail status comment : Query (Except CallError α))
      ((direct e).fail status comment) :=
  ((native e).fail_ne_counters status comment).mirrors mirror

theorem mirrors_nameOf (machine : Option String) (index : UInt32) :
    Query.Mirrors system service ((native e).nameOf machine index)
      ((direct e).nameOf machine index) := by
  have refused := error?_eq_none_iff ⟨"machine name", machine⟩
  have text : ∀ bytes, Only (·.kind ≠ .counters) (Wire.readString .windows e bytes) :=
    fun bytes => (Wire.readString_only _ _ bytes).mono fun _ => Call.readsText.ne_counters
  cases found : Argument.error? ⟨"machine name", machine⟩ with
  | some error =>
    rw [nameOf, nameOf, found]
    exact .pure _
  | none =>
    have plain := refused.mp found
    rw [nameOf_of_plain _ plain, nameOf_of_plain _ plain]
    refine .bind (mirrors_askName mirror e plain index .probe) fun probe => ?_
    refine .bind (.say _ _) fun _ => ?_
    split
    · split
      · exact .bind (.say _ _) fun _ => .pure _
      · refine .bind (mirrors_askName mirror e plain index (.allocate _)) fun fetch => ?_
        refine .bind (.say _ _) fun _ => ?_
        split
        · exact .bind ((text _).mirrors mirror) fun _ => .pure _
        · exact mirrors_fail mirror e _ _
    · exact mirrors_fail mirror e _ _

theorem mirrors_fetchItems {s : Subject} (plain : s.Plain) (counters instances : UInt32) :
    Query.Mirrors system service ((native e).fetchItems s counters instances)
      ((direct e).fetchItems s counters instances) := by
  have text : ∀ bytes, Only (·.kind ≠ .counters) (Wire.readList .windows e bytes) :=
    fun bytes => (Wire.readList_only _ _ bytes).mono fun _ => Call.readsText.ne_counters
  refine .bind (mirrors_askItems mirror e plain (Slot.fresh_listSlot e counters)
    (Slot.fresh_listSlot e instances)) fun fetch => ?_
  refine .bind (.say _ _) fun _ => ?_
  split
  · exact .bind ((text _).mirrors mirror) fun _ =>
      .bind ((text _).mirrors mirror) fun _ => .pure _
  · exact mirrors_fail mirror e _ _

theorem mirrors_enumerate (s : Subject) :
    Query.Mirrors system service ((native e).enumerate s) ((direct e).enumerate s) := by
  cases found : s.error? with
  | some error =>
    rw [enumerate, enumerate, found]
    exact .pure _
  | none =>
    have plain := s.error?_eq_none_iff.mp found
    rw [enumerate_of_plain _ plain, enumerate_of_plain _ plain]
    refine .bind (mirrors_askItems mirror e plain .probe .probe) fun probe => ?_
    refine .bind (.say _ _) fun _ => ?_
    split
    · split
      · exact .bind (.say _ _) fun _ => mirrors_fetchItems mirror e plain _ _
      · exact mirrors_fetchItems mirror e plain _ _
    · exact mirrors_fail mirror e _ _

theorem mirrors_localizedName (source : Table.Source) (machine : Option String) (name : String) :
    Query.Mirrors system service ((native e).localizedName source machine name)
      ((direct e).localizedName source machine name) := by
  refine .bind ((source.lookupIndex_only name).mirrors mirror) fun index => ?_
  split
  · exact .pure _
  · exact .bind (mirrors_nameOf mirror e machine index) fun _ => .pure _

end Questions

end Client

end CounterCatalog
