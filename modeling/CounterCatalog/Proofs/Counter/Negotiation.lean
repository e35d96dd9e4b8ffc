import CounterCatalog.Proofs.Query.Calls
import CounterCatalog.Proofs.Text.Zeros
import CounterCatalog.Session

set_option autoImplicit false

namespace CounterCatalog

def Written.announced (w : Written) : UInt32 := w.size.getD 0

namespace Slot

/-- Zeroed room for exactly so many units, and their number beside it. -/
structure Offers (s : Slot) (e : Encoding) (units : UInt32) : Prop where
  size : s.size = units
  zeroed : s.buffer.map Buffer.toList = some (List.replicate (e.width * units.toNat) 0)

/-- Room for a list, which is none at all just for a list of no size. -/
structure OffersList (s : Slot) (e : Encoding) (units : UInt32) : Prop where
  size : s.size = units
  absent : s.buffer = none ↔ units = 0
  zeroed : ∀ b ∈ s.buffer, b.toList = List.replicate (e.width * units.toNat) 0

theorem allocate_offers (e : Encoding) (units : UInt32) : (allocate e units).Offers e units where
  size := rfl
  zeroed := by
    rw [Nat.mul_comm]
    exact congrArg some (Buffer.toList_zeroed _)

theorem listSlot_offers (e : Encoding) (units : UInt32) :
    (Client.listSlot e units).OffersList e units := by
  unfold Client.listSlot
  split
  · next h =>
    subst h
    exact ⟨rfl, by simp [probe], by simp [probe]⟩
  · next h =>
    refine ⟨rfl, by simp [allocate, h], ?_⟩
    rintro b ⟨⟩
    rw [Nat.mul_comm]
    exact Buffer.toList_zeroed _

theorem lend_probe (e : Encoding) : probe.lend e = probe := by
  cases e <;> rfl

theorem lend_allocate (e : Encoding) (units : UInt32) :
    (allocate e units).lend e = allocate e units := by
  cases e with
  | narrow => rfl
  | wide =>
    have whole : units.toNat * 2 / 2 * 2 = units.toNat * 2 := by omega
    change Slot.mk (some (Buffer.zeroed (units.toNat * 2 / 2 * 2))) units = _
    rw [whole]
    rfl

theorem lend_listSlot (e : Encoding) (units : UInt32) :
    (Client.listSlot e units).lend e = Client.listSlot e units := by
  unfold Client.listSlot
  split
  · exact lend_probe e
  · exact lend_allocate e units

theorem size_takeBack (s : Slot) (e : Encoding) (w : Written) :
    (s.takeBack e w).size = w.size.getD s.size := by
  cases e <;> rfl

end Slot

namespace Exchange

def lookup (r : LookupRequest String) (reply : LookupReply) : Exchange := ⟨.lookup r, reply⟩

def nativeLookup (r : LookupRequest (List UInt8)) (reply : LookupReply) : Exchange :=
  ⟨.nativeLookup r, reply⟩

def enumerate (r : EnumerationRequest String) (reply : EnumerationReply) : Exchange :=
  ⟨.enumerate r, reply⟩

def nativeEnumerate (r : EnumerationRequest (List UInt8)) (reply : EnumerationReply) : Exchange :=
  ⟨.nativeEnumerate r 0, reply⟩

end Exchange

def Status.Announces (status : UInt32) : Prop :=
  status = Status.success ∨ status = Status.moreData

theorem Status.announcesSize_iff (status : UInt32) :
    Status.announcesSize status = true ↔ Status.Announces status := by
  simp [Status.announcesSize, Status.Announces]

section Negotiations
variable {Text : Type}

/-- The calls for a name: a probe and, just if it announced a name of some size, one fetch. -/
inductive NameNegotiation (made : LookupRequest Text → LookupReply → Exchange)
    (probe : LookupRequest Text) : List Exchange → Prop where
  | settled (reply : LookupReply)
      (stop : ¬ (Status.Announces reply.status ∧ 1 ≤ reply.name.announced)) :
      NameNegotiation made probe [made probe reply]
  | fetched (reply last : LookupReply) (name : Slot)
      (go : Status.Announces reply.status ∧ 1 ≤ reply.name.announced)
      (room : name.Offers probe.encoding reply.name.announced) :
      NameNegotiation made probe [made probe reply, made { probe with name } last]

/-- The calls for the items of an object. A fetch is made even for two lists of no size. -/
inductive ItemsNegotiation (made : EnumerationRequest Text → EnumerationReply → Exchange)
    (probe : EnumerationRequest Text) : List Exchange → Prop where
  | settled (reply : EnumerationReply) (stop : ¬ Status.Announces reply.status) :
      ItemsNegotiation made probe [made probe reply]
  | fetched (reply last : EnumerationReply) (counters instances : Slot)
      (go : Status.Announces reply.status)
      (counterRoom : counters.OffersList probe.encoding reply.counters.announced)
      (instanceRoom : instances.OffersList probe.encoding reply.instances.announced) :
      ItemsNegotiation made probe
        [made probe reply, made { probe with counters, instances } last]

end Negotiations

end CounterCatalog
