import CounterCatalog.Proofs.CallError.Status
import CounterCatalog.Proofs.Counter.Mirror

set_option autoImplicit false

namespace CounterCatalog

open Query

namespace Binding

def lookupReply (b : Binding) (r : LookupRequest String) (system : System)
    (past : List Exchange) : LookupReply :=
  match b with
  | .direct => system past (.lookup r)
  | .native => system past (.nativeLookup r.passed)

def lookupExchange (b : Binding) (r : LookupRequest String) (reply : LookupReply) : Exchange :=
  match b with
  | .direct => .lookup r reply
  | .native => .nativeLookup r.passed reply

def enumerateReply (b : Binding) (r : EnumerationRequest String) (system : System)
    (past : List Exchange) : EnumerationReply :=
  match b with
  | .direct => system past (.enumerate r)
  | .native => system past (.nativeEnumerate r.passed 0)

def enumerateExchange (b : Binding) (r : EnumerationRequest String) (reply : EnumerationReply) :
    Exchange :=
  match b with
  | .direct => .enumerate r reply
  | .native => .nativeEnumerate r.passed reply

end Binding

namespace Client

variable (c : Client)

theorem mapError_fail {c : Client} {α : Type} (past : List Exchange) (status : UInt32)
    (comment : String) (system : System) :
    ((c.fail status comment : Query (Except CallError α)).run system past).value.mapError
      CallError.status = .error status := by
  rw [fail, value_map]
  exact congrArg Except.error (CallError.status_ofCall _ _ _ _ _)

section Names
variable (machine : Option String) (index : UInt32)

def nameRequest (slot : Slot) : LookupRequest String :=
  { encoding := c.encoding, machine, index, name := slot }

def nameReply (slot : Slot) (system : System) (past : List Exchange) : LookupReply :=
  c.binding.lookupReply (c.nameRequest machine index slot) system past

def nameExchange (slot : Slot) (system : System) (past : List Exchange) : Exchange :=
  c.binding.lookupExchange (c.nameRequest machine index slot)
    (c.nameReply machine index slot system past)

def nameAsked (system : System) (past : List Exchange) (size : UInt32) : List Exchange :=
  let probed := past ++ [c.nameExchange machine index .probe system past]
  probed ++ [c.nameExchange machine index (.allocate c.encoding size) system probed]

/-- The probe for a name announces so many units, and the fetch behind it is answered so. No fetch
is made for a name of no size. -/
structure FetchesName (system : System) (past : List Exchange) (size : UInt32)
    (reply : LookupReply) : Prop where
  announces : Status.Announces (c.nameReply machine index .probe system past).status
  sized : (c.nameReply machine index .probe system past).name.announced = size
  positive : size ≠ 0
  fetch : c.nameReply machine index (.allocate c.encoding size) system
    (past ++ [c.nameExchange machine index .probe system past]) = reply

variable {machine} (plain : ∀ s ∈ machine, Text.hasNul s = false)
  (system : System) (past : List Exchange)
include plain

theorem run_askName {slot : Slot} (fresh : slot.Fresh c.encoding) :
    (c.askName machine index slot).run system past =
      { value :=
          { status := (c.nameReply machine index slot system past).status
            name := slot.receive (c.nameReply machine index slot system past).name }
        exchanges := [c.nameExchange machine index slot system past] } := by
  cases h : c.binding with
  | direct =>
    rw [nameExchange, nameReply, askName, h]
    rfl
  | native =>
    rw [c.run_askName_native h (c.encoding.optionalArgument?_eq_passed plain) index fresh.lend,
      nameExchange, nameReply, h]
    dsimp only
    rw [fresh.takeBack]
    rfl

theorem value_nameOf_fetched {size : UInt32} {reply : LookupReply}
    (h : c.FetchesName machine index system past size reply) :
    ((c.nameOf machine index).run system past).value =
      if reply.status = Status.success then
        .ok ((Wire.readString c.platform c.encoding
          ((Slot.allocate c.encoding size).receive reply.name).content).run system
            (c.nameAsked machine index system past size)).value.1
      else
        ((c.fail reply.status ("PdhLookupPerfNameByIndex for index "
          ++ Text.Numeral.decimal index.toNat) : Query (Except CallError String)).run system
            (c.nameAsked machine index system past size)).value := by
  have announced : (Slot.probe.receive (c.nameReply machine index .probe system past).name).size =
      size := h.sized
  have announces := (Status.announcesSize_iff _).mpr h.announces
  rw [c.nameOf_of_plain plain, findName, value_bind, c.run_askName index plain _ _ .probe, trace,
    value_say_bind, if_pos announces, announced, if_neg h.positive, fetchName, value_bind,
    c.run_askName index plain _ _ (.allocate size), h.fetch, trace, value_say_bind]
  split
  · rw [value_bind, value_pure]
    rfl
  · rfl

end Names

section Items
variable (s : Subject)

def itemsRequest (counters instances : Slot) : EnumerationRequest String :=
  { encoding := c.encoding, source := s.source, machine := s.machine, object := s.object
    counters, instances, detail := s.detail }

def itemsReply (counters instances : Slot) (system : System) (past : List Exchange) :
    EnumerationReply :=
  c.binding.enumerateReply (c.itemsRequest s counters instances) system past

def itemsExchange (counters instances : Slot) (system : System) (past : List Exchange) :
    Exchange :=
  c.binding.enumerateExchange (c.itemsRequest s counters instances)
    (c.itemsReply s counters instances system past)

def itemsAsked (system : System) (past : List Exchange) (counters instances : UInt32) :
    List Exchange :=
  let probed := past ++ [c.itemsExchange s .probe .probe system past]
  probed ++ [c.itemsExchange s (listSlot c.encoding counters) (listSlot c.encoding instances)
    system probed]

structure FetchesItems (system : System) (past : List Exchange) (counters instances : UInt32)
    (reply : EnumerationReply) : Prop where
  announces : Status.Announces (c.itemsReply s .probe .probe system past).status
  countersSized : (c.itemsReply s .probe .probe system past).counters.announced = counters
  instancesSized : (c.itemsReply s .probe .probe system past).instances.announced = instances
  fetch : c.itemsReply s (listSlot c.encoding counters) (listSlot c.encoding instances) system
    (past ++ [c.itemsExchange s .probe .probe system past]) = reply

variable {s} (plain : s.Plain) (system : System) (past : List Exchange)
include plain

theorem run_askItems {counters instances : Slot} (freshCounters : counters.Fresh c.encoding)
    (freshInstances : instances.Fresh c.encoding) :
    (c.askItems s counters instances).run system past =
      { value :=
          { status := (c.itemsReply s counters instances system past).status
            counters := counters.receive (c.itemsReply s counters instances system past).counters
            instances :=
              instances.receive (c.itemsReply s counters instances system past).instances }
        exchanges := [c.itemsExchange s counters instances system past] } := by
  cases h : c.binding with
  | direct =>
    rw [itemsExchange, itemsReply, askItems, h]
    rfl
  | native =>
    rw [c.run_askItems_native h s (c.encoding.optionalArgument?_eq_passed plain.source)
      (c.encoding.optionalArgument?_eq_passed plain.machine)
      (c.encoding.argument?_eq_passed plain.object) freshCounters.lend freshInstances.lend,
      itemsExchange, itemsReply, h]
    dsimp only
    rw [freshCounters.takeBack, freshInstances.takeBack]
    rfl

def itemsRead (counters instances : UInt32) (reply : EnumerationReply) : Query Inventory := do
  let counterTexts ← Wire.readList c.platform c.encoding
    ((listSlot c.encoding counters).receive reply.counters).content
  let instanceTexts ← Wire.readList c.platform c.encoding
    ((listSlot c.encoding instances).receive reply.instances).content
  return { counters := counterTexts, instances := instanceTexts }

theorem value_fetchItems_of_reply (counters instances : UInt32) :
    let reply := c.itemsReply s (listSlot c.encoding counters) (listSlot c.encoding instances)
      system past
    let asked := past ++ [c.itemsExchange s (listSlot c.encoding counters)
      (listSlot c.encoding instances) system past]
    ((c.fetchItems s counters instances).run system past).value =
      if reply.status = Status.success then
        .ok ((c.itemsRead counters instances reply).run system asked).value
      else
        ((c.fail reply.status ("PdhEnumObjectItems for " ++ Text.quoted s.object) :
          Query (Except CallError Inventory)).run system asked).value := by
  intro reply asked
  rw [fetchItems, value_bind, c.run_askItems plain _ _ (Slot.fresh_listSlot _ _)
    (Slot.fresh_listSlot _ _), trace, value_say_bind]
  by_cases good : reply.status = Status.success
  · rw [if_pos good, if_pos good]
    rfl
  · rw [if_neg good, if_neg good]

theorem value_enumerate_fetched {counters instances : UInt32} {reply : EnumerationReply}
    (h : c.FetchesItems s system past counters instances reply) :
    ((c.enumerate s).run system past).value =
      if reply.status = Status.success then
        .ok ((c.itemsRead counters instances reply).run system
          (c.itemsAsked s system past counters instances)).value
      else
        ((c.fail reply.status ("PdhEnumObjectItems for " ++ Text.quoted s.object) :
          Query (Except CallError Inventory)).run system
            (c.itemsAsked s system past counters instances)).value := by
  have counterSize :
      (Slot.probe.receive (c.itemsReply s .probe .probe system past).counters).size = counters :=
    h.countersSized
  have instanceSize :
      (Slot.probe.receive (c.itemsReply s .probe .probe system past).instances).size =
        instances := h.instancesSized
  have announces := (Status.announcesSize_iff _).mpr h.announces
  have fetched := c.value_fetchItems_of_reply plain system
    (past ++ [c.itemsExchange s .probe .probe system past]) counters instances
  rw [h.fetch] at fetched
  rw [c.enumerate_of_plain plain, findItems, value_bind, c.run_askItems plain _ _ .probe .probe,
    trace, value_say_bind, if_pos announces, counterSize, instanceSize]
  split
  · rw [debug, value_say_bind]
    exact fetched
  · exact fetched

end Items

end Client

end CounterCatalog
