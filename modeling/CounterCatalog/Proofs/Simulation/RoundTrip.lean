import CounterCatalog.Proofs.CallError.Status
import CounterCatalog.Proofs.Counter.Reply
import CounterCatalog.Proofs.Simulation.Room
import CounterCatalog.Proofs.Wire.Texts

set_option autoImplicit false

namespace CounterCatalog

open Query

namespace Simulation

section Answers
variable (s : Simulation)

structure Sized : Prop where
  counters : (listBytes .wide s.counters).length / 2 < UInt32.size
  instances : (listBytes .wide s.instances).length / 2 < UInt32.size
  names : ∀ index, ∀ name ∈ s.nameOf? index, (nameBytes .wide name).length / 2 < UInt32.size

def fetched {α : Type} (value : α) : Except UInt32 α :=
  match s.fetchStatus with
  | none => .ok value
  | some status => if status = Status.success then .ok value else .error status

def itemsProbe : UInt32 :=
  s.probeStatus.getD
    (if s.counters = [] ∧ s.instances = [] then Status.success else Status.moreData)

/-- Without any items the fetch passes no buffer, so that it is answered as the probe was. -/
def itemsAnswer : Except UInt32 Inventory :=
  if Status.announcesSize s.itemsProbe then
    if s.counters = [] ∧ s.instances = [] then
      if s.itemsProbe = Status.success then .ok { counters := [], instances := [] }
      else .error Status.moreData
    else
      s.fetched { counters := Text.legible s.counters, instances := Text.legible s.instances }
  else .error s.itemsProbe

def nameProbe (index : UInt32) : UInt32 :=
  s.probeStatus.getD (match s.nameOf? index with
    | none => Status.noObject
    | some name => if name = "" then Status.success else Status.moreData)

/-- An index without a name has no size either, and a probe that went well makes it empty. -/
def nameAnswer (index : UInt32) : Except UInt32 String :=
  if Status.announcesSize (s.nameProbe index) then
    match s.nameOf? index with
    | none => .ok ""
    | some name => if name = "" then .ok "" else s.fetched (Text.beforeNul name)
  else .error (s.nameProbe index)

end Answers

theorem entries_listBytes (texts : List String) :
    (Wire.entries (Encoding.wide.units (listBytes .wide texts))).map Text.Utf16.decode =
      Text.legible texts := by
  by_cases none : texts = []
  · subst none
    rfl
  · change (Wire.entries (Encoding.wideUnits _)).map _ = _
    rw [listBytes_wide none, Encoding.wideUnits_wideBytes, Wire.entries_listUnits_encode,
      Text.map_decode_encode]

theorem countable_listBytes {texts : List String}
    (few : (listBytes .wide texts).length / 2 < UInt32.size) :
    Countable .wide (listBytes .wide texts) := by
  by_cases none : texts = []
  · subst none
    exact ⟨rfl, few⟩
  · rw [listBytes_wide none] at few ⊢
    exact countable_wideBytes few

theorem stringUnits_nameBytes {name : String} (some : name ≠ "") :
    Text.Utf16.decode (Wire.stringUnits (Encoding.wide.units (nameBytes .wide name))) =
      Text.beforeNul name := by
  change Text.Utf16.decode (Wire.stringUnits (Encoding.wideUnits _)) = _
  rw [nameBytes_wide some, Encoding.wideUnits_wideBytes, Wire.stringUnits,
    Text.Utf16.takeWhile_encode, Text.Utf16.decode_encode]

theorem countable_nameBytes {name : String}
    (few : (nameBytes .wide name).length / 2 < UInt32.size) :
    Countable .wide (nameBytes .wide name) := by
  by_cases none : name = ""
  · subst none
    exact ⟨rfl, few⟩
  · rw [nameBytes_wide none] at few ⊢
    exact countable_wideBytes few

theorem isEmpty_nameBytes (name : String) :
    (nameBytes .wide name).isEmpty = decide (name = "") := by
  by_cases none : name = ""
  · subst none
    rfl
  · rw [nameBytes_wide none, Encoding.wideBytes_append]
    simp [Encoding.wideBytes, none]

theorem statusOf_probe (s : Simulation) :
    s.statusOf true (s.counters.isEmpty && s.instances.isEmpty) = s.itemsProbe := by
  simp [statusOf, itemsProbe]

theorem fetched_eq {α : Type} (s : Simulation) (value : α) :
    s.fetched value =
      if s.statusOf false true = Status.success then .ok value
      else .error (s.statusOf false true) := by
  unfold fetched
  cases h : s.fetchStatus <;> simp [statusOf, h]

theorem itemsAnswer_of_announces (s : Simulation) (good : Status.announcesSize s.itemsProbe) :
    s.itemsAnswer =
      if s.statusOf (s.counters.isEmpty && s.instances.isEmpty) true = Status.success then
        .ok { counters := Text.legible s.counters, instances := Text.legible s.instances }
      else .error (s.statusOf (s.counters.isEmpty && s.instances.isEmpty) true) := by
  rw [itemsAnswer, if_pos good]
  by_cases none : s.counters = [] ∧ s.instances = []
  · -- The fetch passes no buffers, so that it counts as a probe.
    have same : s.statusOf true true = s.itemsProbe := by
      simp [statusOf, itemsProbe, none]
    rw [if_pos none, none.1, none.2]
    change _ = if s.statusOf true true = Status.success then _
      else Except.error (s.statusOf true true)
    rw [same]
    split
    · rfl
    · next bad =>
      rw [((Status.announcesSize_iff _).mp good).resolve_left bad]
  · have filled : (s.counters.isEmpty && s.instances.isEmpty) = false := by
      simpa using none
    rw [if_neg none, filled, s.fetched_eq]

theorem eq_of_itemsAnswer_eq_ok {s : Simulation} {items : Inventory}
    (h : s.itemsAnswer = .ok items) :
    items = { counters := Text.legible s.counters, instances := Text.legible s.instances } := by
  by_cases good : Status.announcesSize s.itemsProbe
  · rw [s.itemsAnswer_of_announces good] at h
    split at h
    · exact (Except.ok.inj h).symm
    · cases h
  · rw [itemsAnswer, if_neg good] at h
    cases h

theorem exists_itemsAnswer_eq_ok {s : Simulation} (probe : s.probeStatus = none)
    (fetch : s.fetchStatus = none) : ∃ items, s.itemsAnswer = .ok items := by
  by_cases none : s.counters = [] ∧ s.instances = []
  · refine ⟨{ counters := [], instances := [] }, ?_⟩
    simp [itemsAnswer, itemsProbe, probe, none, Status.announcesSize]
  · refine ⟨{ counters := Text.legible s.counters, instances := Text.legible s.instances }, ?_⟩
    simp [itemsAnswer, itemsProbe, probe, fetch, fetched, none, Status.announcesSize]

end Simulation

namespace Client

variable {c : Client} {s : Simulation} (past : List Exchange)

section Items
variable (direct : c.binding = .direct) (wide : c.encoding = .wide) (sized : s.Sized)
  (subject : Subject)
include direct wide

theorem value_askItems (counters instances : Slot) :
    ((c.askItems subject counters instances).run s.system past).value =
      { status := s.statusOf (counters.buffer.isNone && instances.buffer.isNone)
          (Simulation.fits counters (Simulation.listBytes .wide s.counters) &&
            Simulation.fits instances (Simulation.listBytes .wide s.instances))
        counters := counters.receive
          (Simulation.fill .wide counters (Simulation.listBytes .wide s.counters))
        instances := instances.receive
          (Simulation.fill .wide instances (Simulation.listBytes .wide s.instances)) } := by
  rw [askItems, direct, wide]
  rfl

include sized

theorem value_fetchItems :
    ((c.fetchItems subject (Simulation.unitCount .wide (Simulation.listBytes .wide s.counters))
        (Simulation.unitCount .wide (Simulation.listBytes .wide s.instances))).run
      s.system past).value.mapError CallError.status =
    if s.statusOf (s.counters.isEmpty && s.instances.isEmpty) true = Status.success then
      .ok { counters := Text.legible s.counters, instances := Text.legible s.instances }
    else .error (s.statusOf (s.counters.isEmpty && s.instances.isEmpty) true) := by
  have counters := Simulation.countable_listBytes sized.counters
  have instances := Simulation.countable_listBytes sized.instances
  rw [fetchItems, value_bind, value_askItems past direct wide, wide, counters.isNone_listSlot,
    instances.isNone_listSlot, counters.fits_listSlot, instances.fits_listSlot,
    Simulation.isEmpty_listBytes, Simulation.isEmpty_listBytes, trace, value_say_bind,
    Bool.and_true]
  by_cases good : s.statusOf (s.counters.isEmpty && s.instances.isEmpty) true = Status.success
  · rw [if_pos good, if_pos good, value_bind, value_bind, value_pure,
      Wire.value_readList_wide, Wire.value_readList_wide, counters.entries_receive,
      instances.entries_receive, Simulation.entries_listBytes, Simulation.entries_listBytes]
    rfl
  · rw [if_neg good, if_neg good]
    exact mapError_fail _ _ _ _

theorem value_findItems :
    ((c.findItems subject).run s.system past).value.mapError CallError.status =
      s.itemsAnswer := by
  rw [findItems, value_bind, value_askItems past direct wide, trace, value_say_bind]
  dsimp only
  rw [Simulation.fits_probe, Simulation.fits_probe, Simulation.isEmpty_listBytes,
    Simulation.isEmpty_listBytes]
  change Except.mapError _ (Observed.value (Query.run
    (if Status.announcesSize (s.statusOf true _) = true then _ else _) _ _)) = _
  rw [s.statusOf_probe]
  split
  · next good =>
    have fetched := fun past => value_fetchItems past direct wide sized subject
    rw [s.itemsAnswer_of_announces good]
    split
    · rw [debug, value_say_bind]
      exact fetched _
    · exact fetched _
  · next bad =>
    rw [Simulation.itemsAnswer, if_neg bad, mapError_fail]
    exact congrArg Except.error s.statusOf_probe

end Items

section Names
variable (direct : c.binding = .direct) (wide : c.encoding = .wide) (machine : Option String)
  {index : UInt32}
include direct wide

theorem value_askName_of_none (h : s.nameOf? index = none) :
    ((c.askName machine index .probe).run s.system past).value =
      { status := s.probeStatus.getD Status.noObject, name := .probe } := by
  rw [askName, direct, wide]
  change LookupOutcome.mk (s.lookup _).status (Slot.probe.receive (s.lookup _).name) = _
  simp only [Simulation.lookup, h]
  rfl

theorem value_askName_of_some {name : String} (h : s.nameOf? index = some name) (slot : Slot) :
    ((c.askName machine index slot).run s.system past).value =
      { status := s.statusOf slot.buffer.isNone
          (Simulation.fits slot (Simulation.nameBytes .wide name))
        name := slot.receive
          (Simulation.fill .wide slot (Simulation.nameBytes .wide name)) } := by
  rw [askName, direct, wide]
  change LookupOutcome.mk (s.lookup _).status (slot.receive (s.lookup _).name) = _
  simp only [Simulation.lookup, h]

theorem value_fetchName {name : String} (h : s.nameOf? index = some name) (some : name ≠ "")
    (few : (Simulation.nameBytes .wide name).length / 2 < UInt32.size) :
    ((c.fetchName machine index (Simulation.unitCount .wide
      (Simulation.nameBytes .wide name))).run s.system past).value.mapError CallError.status =
    s.fetched (Text.beforeNul name) := by
  have data := Simulation.countable_nameBytes few
  rw [fetchName, value_bind, value_askName_of_some past direct wide machine h, wide,
    data.fits_allocate, trace, value_say_bind, s.fetched_eq]
  change Except.mapError _ (Observed.value (Query.run
    (if s.statusOf false true = Status.success then _ else _) _ _)) = _
  by_cases good : s.statusOf false true = Status.success
  · rw [if_pos good, if_pos good, value_map, Wire.value_readString_wide,
      data.stringUnits_receive, Simulation.stringUnits_nameBytes some]
    rfl
  · rw [if_neg good, if_neg good]
    exact mapError_fail _ _ _ _

theorem value_findName_of_few
    (small : ∀ name ∈ s.nameOf? index, (Simulation.nameBytes .wide name).length / 2 < UInt32.size) :
    ((c.findName machine index).run s.system past).value.mapError CallError.status =
      s.nameAnswer index := by
  rw [findName, value_bind]
  cases h : s.nameOf? index with
  | none =>
    have probe : s.nameProbe index = s.probeStatus.getD Status.noObject := by
      simp only [Simulation.nameProbe, h]
    rw [value_askName_of_none past direct wide machine h, trace, value_say_bind,
      Simulation.nameAnswer, probe]
    dsimp only
    split
    · simp only [h]
      rfl
    · exact mapError_fail _ _ _ _
  | some name =>
    have few := small name h
    have data := Simulation.countable_nameBytes few
    have probe : s.statusOf true (decide (name = "")) = s.nameProbe index := by
      simp [Simulation.statusOf, Simulation.nameProbe, h]
    rw [value_askName_of_some past direct wide machine h, trace, value_say_bind,
      Simulation.nameAnswer, Simulation.fits_probe, Simulation.isEmpty_nameBytes]
    change Except.mapError _ (Observed.value (Query.run
      (if Status.announcesSize (s.statusOf true _) = true then
        if Simulation.unitCount .wide _ = 0 then _ else _ else _) _ _)) = _
    rw [probe]
    split
    · simp only [h]
      by_cases none : name = ""
      · rw [if_pos (data.unitCount_eq_zero_iff.mpr (by rw [none]; rfl)), if_pos none]
        rfl
      · have counted : Simulation.unitCount .wide (Simulation.nameBytes .wide name) ≠ 0 := by
          intro zero
          have empty := Simulation.isEmpty_nameBytes name
          rw [data.unitCount_eq_zero_iff.mp zero] at empty
          simp [none] at empty
        rw [if_neg counted, if_neg none]
        exact value_fetchName _ direct wide machine h none few
    · rw [mapError_fail]
      exact congrArg Except.error probe

theorem value_findName (sized : s.Sized) (index : UInt32) :
    ((c.findName machine index).run s.system past).value.mapError CallError.status =
      s.nameAnswer index :=
  value_findName_of_few past direct wide machine (sized.names index)

end Names

end Client

namespace Simulation

/-- Every wide question that can be put to a simulation is answered as `itemsAnswer` and
`nameAnswer` say. Lists of texts that are not empty and hold no NUL come back as they are. -/
theorem wide_round_trip (s : Simulation) (sized : s.Sized) (c : Client)
    (direct : c.binding = .direct) (wide : c.encoding = .wide) (past : List Exchange) :
    (∀ subject : Client.Subject, subject.Plain →
      ((c.enumerate subject).run s.system past).value.mapError CallError.status =
        s.itemsAnswer ∧
      ((∀ text ∈ s.counters ++ s.instances, text ≠ "" ∧ Text.hasNul text = false) →
        (s.probeStatus = none → s.fetchStatus = none →
          ((c.enumerate subject).run s.system past).value =
            .ok { counters := s.counters, instances := s.instances }) ∧
        ∀ items, ((c.enumerate subject).run s.system past).value = .ok items →
          items = { counters := s.counters, instances := s.instances })) ∧
    ∀ (machine : Option String) (index : UInt32), (∀ text ∈ machine, Text.hasNul text = false) →
      ((c.nameOf machine index).run s.system past).value.mapError CallError.status =
        s.nameAnswer index := by
  constructor
  · intro subject plain
    have answer := Client.value_findItems past direct wide sized subject
    rw [c.enumerate_of_plain plain]
    refine ⟨answer, fun texts => ?_⟩
    have exact : ∀ items, ((c.findItems subject).run s.system past).value = .ok items →
        items = { counters := s.counters, instances := s.instances } := by
      intro items read
      rw [read] at answer
      rw [eq_of_itemsAnswer_eq_ok answer.symm,
        Text.legible_of_plain fun text ht => texts text (List.mem_append_left _ ht),
        Text.legible_of_plain fun text ht => texts text (List.mem_append_right _ ht)]
    refine ⟨fun probe fetch => ?_, exact⟩
    obtain ⟨items, succeeds⟩ := exists_itemsAnswer_eq_ok probe fetch
    rw [succeeds] at answer
    cases read : ((c.findItems subject).run s.system past).value with
    | error error =>
      rw [read] at answer
      cases answer
    | ok items => rw [exact items read]
  · intro machine index plain
    rw [c.nameOf_of_plain plain]
    exact Client.value_findName past direct wide machine sized index

theorem exists_mem_names {s : Simulation} {index : UInt32} {name : String}
    (h : s.nameOf? index = some name) : ∃ entry ∈ s.names, entry.2 = name := by
  obtain ⟨entry, found, own⟩ := Option.map_eq_some_iff.mp h
  exact ⟨entry, List.mem_reverse.mp (List.mem_of_find?_eq_some found), own⟩

def divided : Simulation where
  names := [(2, "Système 🦀"), (4, "Memory\x00!")]
  counters := ["% Zeit\x00% Rest", "Größe", "", "lost"]
  instances := ["_Total"]

theorem divided_sized : divided.Sized where
  counters := by decide
  instances := by decide
  names := by
    intro index name h
    obtain ⟨entry, member, rfl⟩ := exists_mem_names h
    have few : ∀ entry ∈ divided.names, (nameBytes .wide entry.2).length / 2 < UInt32.size := by
      decide
    exact few entry member

theorem wide_round_trip_divided :
    ((({ platform := .plain, binding := .direct, encoding := .wide } : Client).enumerate
        { source := none, machine := none, object := "Prozess", detail := 400 }).run
      divided.system []).value.mapError CallError.status =
        .ok { counters := ["% Zeit", "% Rest", "Größe"], instances := ["_Total"] } ∧
    ((({ platform := .plain, binding := .direct, encoding := .wide } : Client).nameOf none 4).run
      divided.system []).value.mapError CallError.status = .ok "Memory" := by
  obtain ⟨items, names⟩ := wide_round_trip divided divided_sized
    { platform := .plain, binding := .direct, encoding := .wide } rfl rfl []
  constructor
  · rw [(items _ ⟨by simp, by simp, by decide⟩).1]
    rfl
  · rw [names none 4 (by simp)]
    rfl

end Simulation

end CounterCatalog
