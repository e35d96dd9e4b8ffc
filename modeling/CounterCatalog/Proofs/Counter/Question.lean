import CounterCatalog.Proofs.Counter.Negotiation
import CounterCatalog.Proofs.Wire.Encoding

set_option autoImplicit false

namespace CounterCatalog

open Query

def Encoding.Terminated (e : Encoding) (bytes : List UInt8) : Prop :=
  ∃ us, (0 : UInt16) ∉ us ∧ e.units bytes = us ++ [0]

/-- A string as bytes with a terminator: UTF-8 in narrow encoding, UTF-16 units in wide. -/
def Encoding.passed (e : Encoding) (s : String) : List UInt8 :=
  match e with
  | .narrow => Text.Utf8.encode s ++ [0]
  | .wide => wideBytes (Text.Utf16.encode s ++ [0])

theorem Encoding.argument?_eq_passed (e : Encoding) {s : String} (h : Text.hasNul s = false) :
    e.argument? s = some (e.passed s) := by
  cases e with
  | narrow => exact if_neg (by simp [h])
  | wide =>
    rw [argument?, if_pos (Text.isTerminable_of_not_hasNul h), Text.beforeNul_eq_self h, passed,
      wideBytes_append]
    rfl

theorem Encoding.terminated_passed (e : Encoding) {s : String} (h : Text.hasNul s = false) :
    e.Terminated (e.passed s) := by
  cases e with
  | narrow =>
    refine ⟨Encoding.narrow.units (Text.Utf8.encode s), ?_, units_append_terminator_narrow _⟩
    rw [zero_mem_units_narrow]
    exact Text.Utf8.zero_not_mem_encode h
  | wide =>
    exact ⟨Text.Utf16.encode s, Text.Utf16.zero_not_mem_encode h, wideUnits_wideBytes _⟩

theorem Encoding.argument?_of_not_hasNul (e : Encoding) {s : String}
    (h : Text.hasNul s = false) : ∃ bytes, e.argument? s = some bytes ∧ e.Terminated bytes :=
  ⟨e.passed s, e.argument?_eq_passed h, e.terminated_passed h⟩

theorem Encoding.optionalArgument?_eq_passed (e : Encoding) {text : Option String}
    (h : ∀ s ∈ text, Text.hasNul s = false) :
    e.optionalArgument? text = some (text.map e.passed) := by
  cases text with
  | none => rfl
  | some s =>
    rw [optionalArgument?, e.argument?_eq_passed (h s rfl), Option.map_some, Option.map_some]

theorem Encoding.optionalArgument?_of_not_hasNul (e : Encoding) {text : Option String}
    (h : ∀ s ∈ text, Text.hasNul s = false) :
    ∃ passed, e.optionalArgument? text = some passed ∧ ∀ bytes ∈ passed, e.Terminated bytes := by
  refine ⟨text.map e.passed, e.optionalArgument?_eq_passed h, fun bytes hb => ?_⟩
  obtain ⟨s, hs, rfl⟩ := Option.map_eq_some_iff.mp hb
  exact e.terminated_passed (h s hs)

namespace Client

variable (c : Client)

theorem fail_ne_counters {α : Type} (status : UInt32) (comment : String) :
    Only (·.kind ≠ .counters) (c.fail status comment : Query (Except CallError α)) :=
  (c.fail_only status comment).ne_of_eq (by decide)

theorem error?_eq_none_iff (a : Argument) :
    a.error? = none ↔ ∀ s ∈ a.value, Text.hasNul s = false := by
  unfold Argument.error?
  cases a.value with
  | none => simp
  | some value => by_cases h : Text.hasNul value <;> simp [h]

structure Subject.Plain (s : Subject) : Prop where
  source : ∀ text ∈ s.source, Text.hasNul text = false
  machine : ∀ text ∈ s.machine, Text.hasNul text = false
  object : Text.hasNul s.object = false

theorem Subject.error?_eq_none_iff (s : Subject) : s.error? = none ↔ s.Plain := by
  simp only [Subject.error?, List.findSome?_eq_none_iff, List.mem_cons, List.not_mem_nil, or_false,
    forall_eq_or_imp, forall_eq, Client.error?_eq_none_iff]
  constructor
  · rintro ⟨source, machine, object⟩
    exact ⟨source, machine, object _ rfl⟩
  · rintro ⟨source, machine, object⟩
    refine ⟨source, machine, ?_⟩
    rintro _ ⟨⟩
    exact object

theorem nameOf_of_plain {machine : Option String}
    (plain : ∀ s ∈ machine, Text.hasNul s = false) (index : UInt32) :
    c.nameOf machine index = c.findName machine index := by
  rw [nameOf, (error?_eq_none_iff ⟨"machine name", machine⟩).mpr plain]

theorem enumerate_of_plain {s : Subject} (plain : s.Plain) : c.enumerate s = c.findItems s := by
  rw [enumerate, s.error?_eq_none_iff.mpr plain]

/-- What a binding makes of a question for a name: one call with the same slot, whose answer says
how it went and how large the name is. -/
def AsksName {Text : Type} (machine : Option String) (index : UInt32)
    (made : LookupRequest Text → LookupReply → Exchange) (probe : LookupRequest Text) : Prop :=
  ∀ slot, slot.lend c.encoding = slot → ∀ system past, ∃ reply : LookupReply,
    ((c.askName machine index slot).run system past).exchanges =
      [made { probe with name := slot } reply] ∧
    ((c.askName machine index slot).run system past).value.status = reply.status ∧
    ((c.askName machine index slot).run system past).value.name.size =
      reply.name.size.getD slot.size

theorem asksName_direct (h : c.binding = .direct) (machine : Option String) (index : UInt32) :
    c.AsksName machine index Exchange.lookup
      { encoding := c.encoding, machine, index, name := .probe } := by
  intro slot _ system past
  rw [askName, h]
  exact ⟨_, rfl, rfl, rfl⟩

theorem run_askName_native (h : c.binding = .native) {machine : Option String}
    {passed : Option (List UInt8)} (hm : c.encoding.optionalArgument? machine = some passed)
    (index : UInt32) {slot : Slot} (hs : slot.lend c.encoding = slot) (system : System)
    (past : List Exchange) :
    (c.askName machine index slot).run system past =
      let request : LookupRequest (List UInt8) :=
        { encoding := c.encoding, machine := passed, index, name := slot }
      let reply : LookupReply := system past (.nativeLookup request)
      { value := { status := reply.status, name := slot.takeBack c.encoding reply.name }
        exchanges := [.nativeLookup request reply] } := by
  have lent : LookupRequest.lend? { encoding := c.encoding, machine, index, name := slot } =
      some { encoding := c.encoding, machine := passed, index, name := slot } := by
    simp [LookupRequest.lend?, hm, hs]
  rw [askName, h]
  simp only [Binding.lookup, lent]
  rfl

theorem asksName_native (h : c.binding = .native) (machine : Option String) (index : UInt32)
    (passed : Option (List UInt8)) (hm : c.encoding.optionalArgument? machine = some passed) :
    c.AsksName machine index Exchange.nativeLookup
      { encoding := c.encoding, machine := passed, index, name := .probe } := by
  intro slot hs system past
  rw [c.run_askName_native h hm index hs]
  exact ⟨_, rfl, rfl, Slot.size_takeBack _ _ _⟩

theorem ofKind_fetchName_ask (machine : Option String) (index size : UInt32) (system : System)
    (past : List Exchange) :
    ofKind .counters ((c.fetchName machine index size).run system past).exchanges =
      ofKind .counters
        ((c.askName machine index (.allocate c.encoding size)).run system past).exchanges := by
  apply ofKind_bind_of_only
  intro fetch
  apply Only.bind (Only.say _ _)
  intro _
  split
  · exact Only.bind ((Wire.readString_only _ _ _).mono fun _ => Call.readsText.ne_counters)
      fun _ => Only.pure _
  · exact c.fail_ne_counters _ _

section Names
variable {c} {Text : Type} {machine : Option String} {index : UInt32}
  {made : LookupRequest Text → LookupReply → Exchange} {probe : LookupRequest Text}

theorem ofKind_fetchName (asks : c.AsksName machine index made probe)
    (kind : ∀ r reply, (made r reply).call.kind = .counters) (size : UInt32)
    (system : System) (past : List Exchange) : ∃ last,
    ofKind .counters ((c.fetchName machine index size).run system past).exchanges =
      [made { probe with name := .allocate c.encoding size } last] := by
  obtain ⟨last, calls, -, -⟩ :=
    asks (.allocate c.encoding size) (Slot.lend_allocate _ _) system past
  refine ⟨last, ?_⟩
  have own := ofKind_singleton (made { probe with name := .allocate c.encoding size } last)
  rw [kind] at own
  rw [c.ofKind_fetchName_ask, calls, own]

theorem ofKind_findName (asks : c.AsksName machine index made probe)
    (kind : ∀ r reply, (made r reply).call.kind = .counters)
    (hp : probe.name = .probe) (he : probe.encoding = c.encoding)
    (system : System) (past : List Exchange) :
    NameNegotiation made probe
      (ofKind .counters ((c.findName machine index).run system past).exchanges) := by
  obtain ⟨reply, calls, status, size⟩ := asks .probe (Slot.lend_probe _) system past
  have same : { probe with name := .probe } = probe := by rw [← hp]
  have own := ofKind_singleton (made probe reply)
  have announces := Status.announcesSize_iff reply.status
  rw [kind] at own
  change _ = reply.name.announced at size
  rw [same] at calls
  rw [findName, exchanges_bind, ofKind_append, calls, own]
  generalize ((c.askName machine index .probe).run system past).value = asked at status size ⊢
  rw [trace, exchanges_say_bind, status, size]
  split
  · next good =>
    split
    · next none =>
      rw [debug, exchanges_say_bind, exchanges_pure, ofKind_nil, List.append_nil]
      refine .settled reply fun go => ?_
      rw [none] at go
      exact absurd go.2 (by decide)
    · next some =>
      obtain ⟨last, fetched⟩ := ofKind_fetchName asks kind reply.name.announced system
        (past ++ [made probe reply])
      rw [fetched, ← he]
      refine .fetched reply last _ ⟨announces.mp good, ?_⟩ (Slot.allocate_offers _ _)
      grind
  · next bad =>
    rw [(c.fail_ne_counters _ _).ofKind_eq_nil, List.append_nil]
    exact .settled reply fun go => bad (announces.mpr go.1)

end Names

def AsksItems {Text : Type} (s : Subject)
    (made : EnumerationRequest Text → EnumerationReply → Exchange)
    (probe : EnumerationRequest Text) : Prop :=
  ∀ counters instances, counters.lend c.encoding = counters →
    instances.lend c.encoding = instances → ∀ system past, ∃ reply : EnumerationReply,
    ((c.askItems s counters instances).run system past).exchanges =
      [made { probe with counters, instances } reply] ∧
    ((c.askItems s counters instances).run system past).value.status = reply.status ∧
    ((c.askItems s counters instances).run system past).value.counters.size =
      reply.counters.size.getD counters.size ∧
    ((c.askItems s counters instances).run system past).value.instances.size =
      reply.instances.size.getD instances.size

theorem asksItems_direct (h : c.binding = .direct) (s : Subject) :
    c.AsksItems s Exchange.enumerate
      { encoding := c.encoding, source := s.source, machine := s.machine, object := s.object
        counters := .probe, instances := .probe, detail := s.detail } := by
  intro counters instances _ _ system past
  rw [askItems, h]
  exact ⟨_, rfl, rfl, rfl, rfl⟩

theorem run_askItems_native (h : c.binding = .native) (s : Subject)
    {source machine : Option (List UInt8)} {object : List UInt8}
    (hs : c.encoding.optionalArgument? s.source = some source)
    (hm : c.encoding.optionalArgument? s.machine = some machine)
    (ho : c.encoding.argument? s.object = some object) {counters instances : Slot}
    (hc : counters.lend c.encoding = counters) (hi : instances.lend c.encoding = instances)
    (system : System) (past : List Exchange) :
    (c.askItems s counters instances).run system past =
      let request : EnumerationRequest (List UInt8) :=
        { encoding := c.encoding, source, machine, object
          counters, instances, detail := s.detail }
      let reply : EnumerationReply := system past (.nativeEnumerate request 0)
      { value :=
          { status := reply.status
            counters := counters.takeBack c.encoding reply.counters
            instances := instances.takeBack c.encoding reply.instances }
        exchanges := [.nativeEnumerate request reply] } := by
  have lent : EnumerationRequest.lend?
      { encoding := c.encoding, source := s.source, machine := s.machine, object := s.object
        counters, instances, detail := s.detail } =
      some { encoding := c.encoding, source, machine, object
             counters, instances, detail := s.detail } := by
    simp [EnumerationRequest.lend?, hs, hm, ho, hc, hi]
  rw [askItems, h]
  simp only [Binding.enumerate, lent]
  rfl

theorem asksItems_native (h : c.binding = .native) (s : Subject)
    (source machine : Option (List UInt8)) (object : List UInt8)
    (hs : c.encoding.optionalArgument? s.source = some source)
    (hm : c.encoding.optionalArgument? s.machine = some machine)
    (ho : c.encoding.argument? s.object = some object) :
    c.AsksItems s Exchange.nativeEnumerate
      { encoding := c.encoding, source, machine, object
        counters := .probe, instances := .probe, detail := s.detail } := by
  intro counters instances hc hi system past
  rw [c.run_askItems_native h s hs hm ho hc hi]
  exact ⟨_, rfl, rfl, Slot.size_takeBack _ _ _, Slot.size_takeBack _ _ _⟩

section Items
variable {c} {Text : Type} {s : Subject}
  {made : EnumerationRequest Text → EnumerationReply → Exchange} {probe : EnumerationRequest Text}

theorem ofKind_fetchItems (asks : c.AsksItems s made probe)
    (kind : ∀ r reply, (made r reply).call.kind = .counters) (counters instances : UInt32)
    (system : System) (past : List Exchange) : ∃ last,
    ofKind .counters ((c.fetchItems s counters instances).run system past).exchanges =
      [made { probe with
        counters := listSlot c.encoding counters
        instances := listSlot c.encoding instances } last] := by
  obtain ⟨last, calls, -, -, -⟩ :=
    asks _ _ (Slot.lend_listSlot c.encoding counters) (Slot.lend_listSlot c.encoding instances)
      system past
  refine ⟨last, ?_⟩
  have read : ∀ bytes, Only (·.kind ≠ .counters) (Wire.readList c.platform c.encoding bytes) :=
    fun bytes => (Wire.readList_only _ _ bytes).mono fun _ => Call.readsText.ne_counters
  rw [fetchItems, ofKind_bind_of_only, calls]
  · have own := ofKind_singleton (made { probe with
      counters := listSlot c.encoding counters
      instances := listSlot c.encoding instances } last)
    rwa [kind] at own
  · intro fetch
    apply Only.bind (Only.say _ _)
    intro _
    split
    · exact Only.bind (read _) fun _ => Only.bind (read _) fun _ => Only.pure _
    · exact c.fail_ne_counters _ _

theorem ofKind_findItems (asks : c.AsksItems s made probe)
    (kind : ∀ r reply, (made r reply).call.kind = .counters)
    (hc : probe.counters = .probe) (hi : probe.instances = .probe)
    (he : probe.encoding = c.encoding) (system : System) (past : List Exchange) :
    ItemsNegotiation made probe
      (ofKind .counters ((c.findItems s).run system past).exchanges) := by
  obtain ⟨reply, calls, status, counters, instances⟩ :=
    asks .probe .probe (Slot.lend_probe _) (Slot.lend_probe _) system past
  have same : { probe with counters := .probe, instances := .probe } = probe := by
    cases probe
    cases hc
    cases hi
    rfl
  have own := ofKind_singleton (made probe reply)
  have announces := Status.announcesSize_iff reply.status
  rw [kind] at own
  change _ = reply.counters.announced at counters
  change _ = reply.instances.announced at instances
  rw [same] at calls
  rw [findItems, exchanges_bind, ofKind_append, calls, own]
  generalize ((c.askItems s .probe .probe).run system past).value = asked
    at status counters instances ⊢
  rw [trace, exchanges_say_bind, status, counters, instances]
  obtain ⟨last, fetched⟩ := ofKind_fetchItems asks kind reply.counters.announced
    reply.instances.announced system (past ++ [made probe reply])
  split
  · next good =>
    have room : ItemsNegotiation made probe ([made probe reply] ++ [made { probe with
        counters := listSlot c.encoding reply.counters.announced
        instances := listSlot c.encoding reply.instances.announced } last]) := by
      rw [← he]
      exact .fetched reply last _ _ (announces.mp good) (Slot.listSlot_offers _ _)
        (Slot.listSlot_offers _ _)
    -- Two lists of no size are worth a log line, but the fetch is the same.
    split
    · rw [debug, exchanges_say_bind, fetched]
      exact room
    · rw [fetched]
      exact room
  · next bad =>
    rw [(c.fail_ne_counters _ _).ofKind_eq_nil, List.append_nil]
    exact .settled reply fun go => bad (announces.mpr go)

end Items

end Client

end CounterCatalog
