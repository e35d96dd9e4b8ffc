import CounterCatalog.Proofs.Counter.Slack
import CounterCatalog.Proofs.Text.Utf16
import CounterCatalog.Proofs.Wire.Segments

set_option autoImplicit false

namespace CounterCatalog

open Query

namespace Wire

/-- The texts of a list for which so many units were announced. One of no size has no buffer. -/
def readSized (p : Platform) (e : Encoding) (size : UInt32) (data : List UInt8) :
    Query (List String) :=
  if size = 0 then pure [] else readList p e (e.filled size data)

theorem readList_receive (p : Platform) (e : Encoding) (size : UInt32) (w : Written) :
    readList p e ((Client.listSlot e size).receive w).content = readSized p e size w.data := by
  rw [readList, Slot.entries_receive, readSized]
  split
  · rfl
  · rw [readList]

theorem readSized_only (p : Platform) (e : Encoding) (size : UInt32) (data : List UInt8) :
    Only (Call.readsText p e) (readSized p e size data) := by
  unfold readSized
  split
  · exact .pure _
  · exact readList_only p e _

section Strings
variable (p : Platform) {e : Encoding}

theorem reads_readUnits (wide : e = .wide) (units : List UInt16) (system : System)
    (past : List Exchange) :
    Text.Utf16.Reads units ((readUnits p e units).run system past).value.toList := by
  subst wide
  change Text.Utf16.Reads units (String.ofList (Text.Utf16.decodeChars units)).toList
  rw [String.toList_ofList]
  exact Text.Utf16.reads_iff.mpr rfl

theorem readUnits_stringUnits (narrow : e = .narrow) (bytes : List UInt8) :
    readUnits p e (stringUnits (e.units bytes)) = readNarrow p (bytes.takeWhile (· ≠ 0)) := by
  subst narrow
  rw [readUnits, Encoding.bytes_stringUnits_narrow]

end Strings

end Wire

namespace Client

variable (c : Client)

structure AnswersItems (s : Subject) (system : System) (past : List Exchange)
    (probe fetch : EnumerationReply) : Prop where
  first : c.itemsReply s .probe .probe system past = probe
  second : c.itemsReply s (listSlot c.encoding probe.counters.announced)
    (listSlot c.encoding probe.instances.announced) system
    (past ++ [c.itemsExchange s .probe .probe system past]) = fetch

section Items
variable {c} {s : Subject} (plain : s.Plain) {system : System} {past : List Exchange}
  {probe fetch : EnumerationReply} (h : c.AnswersItems s system past probe fetch)
include plain h

theorem mapError_enumerate :
    let asked := c.itemsAsked s system past probe.counters.announced probe.instances.announced
    let counters := (Wire.readSized c.platform c.encoding probe.counters.announced
      fetch.counters.data).run system asked
    let instances := (Wire.readSized c.platform c.encoding probe.instances.announced
      fetch.instances.data).run system (asked ++ counters.exchanges)
    ((c.enumerate s).run system past).value.mapError CallError.status =
      if probe.status = Status.success ∨ probe.status = Status.moreData then
        if fetch.status = Status.success then
          .ok { counters := counters.value, instances := instances.value }
        else .error fetch.status
      else .error probe.status := by
  intro asked counters instances
  by_cases announces : probe.status = Status.success ∨ probe.status = Status.moreData
  · have fetches : c.FetchesItems s system past probe.counters.announced
        probe.instances.announced fetch :=
      ⟨by rwa [h.first], by rw [h.first], by rw [h.first], h.second⟩
    rw [if_pos announces, c.value_enumerate_fetched plain system past fetches]
    by_cases success : fetch.status = Status.success
    · rw [if_pos success, if_pos success, itemsRead, Wire.readList_receive, Wire.readList_receive]
      rfl
    · rw [if_neg success, if_neg success, mapError_fail]
  · have refused : ¬ Status.announcesSize probe.status = true :=
      fun good => announces ((Status.announcesSize_iff _).mp good)
    rw [if_neg announces, c.enumerate_of_plain plain, findItems, value_bind,
      c.run_askItems plain _ _ .probe .probe, h.first, trace, value_say_bind, if_neg refused,
      mapError_fail]

theorem lists_of_enumerate_eq_ok {items : Inventory}
    (ok : ((c.enumerate s).run system past).value = .ok items) : ∃ between,
    items.counters = ((Wire.readSized c.platform c.encoding probe.counters.announced
      fetch.counters.data).run system
        (c.itemsAsked s system past probe.counters.announced probe.instances.announced)).value ∧
    items.instances = ((Wire.readSized c.platform c.encoding probe.instances.announced
      fetch.instances.data).run system between).value := by
  have outcome := mapError_enumerate plain h
  dsimp only at outcome
  rw [ok] at outcome
  split at outcome
  · split at outcome
    · cases outcome
      exact ⟨_, rfl, rfl⟩
    · cases outcome
  · cases outcome

end Items

/-- The lists are what the fetch wrote to buffers of the announced sizes, each told by its own size
and data. The sizes that the fetch wrote play no part. -/
theorem enumerate_of_two_replies (c : Client) (s : Subject) (plain : s.Plain) (system : System)
    (past : List Exchange) (probe fetch : EnumerationReply)
    (h : c.AnswersItems s system past probe fetch) :
    let asked := c.itemsAsked s system past probe.counters.announced probe.instances.announced
    let counters := (Wire.readSized c.platform c.encoding probe.counters.announced
      fetch.counters.data).run system asked
    let instances := (Wire.readSized c.platform c.encoding probe.instances.announced
      fetch.instances.data).run system (asked ++ counters.exchanges)
    (((c.enumerate s).run system past).value.mapError CallError.status =
      if probe.status = Status.success ∨ probe.status = Status.moreData then
        if fetch.status = Status.success then
          .ok { counters := counters.value, instances := instances.value }
        else .error fetch.status
      else .error probe.status) ∧
    ∀ (d : Client) (t : Subject) (second : System) (other : List Exchange)
      (again last : EnumerationReply),
      d.platform = c.platform → d.encoding = c.encoding → c.ReadsAlike system second → t.Plain →
      d.AnswersItems t second other again last →
      ∀ items others, ((c.enumerate s).run system past).value = .ok items →
        ((d.enumerate t).run second other).value = .ok others →
        (again.counters.announced = probe.counters.announced →
          last.counters.data = fetch.counters.data → others.counters = items.counters) ∧
        (again.instances.announced = probe.instances.announced →
          last.instances.data = fetch.instances.data → others.instances = items.instances) := by
  intro asked counters instances
  refine ⟨mapError_enumerate plain h, ?_⟩
  intro d t second other again last platform encoding alike plainer g items others ok okay
  obtain ⟨between, ofCounters, ofInstances⟩ := lists_of_enumerate_eq_ok plain h ok
  obtain ⟨behind, otherCounters, otherInstances⟩ := lists_of_enumerate_eq_ok plainer g okay
  have reads := fun size data =>
    (Wire.readSized_only c.platform c.encoding size data).run_alike alike
  rw [platform, encoding] at otherCounters otherInstances
  refine ⟨fun size data => ?_, fun size data => ?_⟩
  · rw [otherCounters, ofCounters, size, data, reads]
  · rw [otherInstances, ofInstances, size, data, reads]

def overfull (status : UInt32) : Script where
  replies :=
    [{ status := Status.moreData, counters := { size := some 3 }
       instances := { size := some 0 } },
      { status
        counters := { size := some 1, data := [0x61, 0, 0, 0, 0x62, 0, 0x63, 0] }
        instances := { size := some 9, data := [0x78, 0] } }]

theorem enumerate_of_two_replies_overfull :
    let client := native .wide
    let subject : Subject := { source := none, machine := none, object := "6", detail := 400 }
    ((client.enumerate subject).run (overfull 0).system []).value.mapError CallError.status =
      .ok { counters := ["a", "b"], instances := [] } ∧
    ((client.enumerate subject).run (overfull Status.moreData).system []).value.mapError
      CallError.status = .error Status.moreData := by
  intro client subject
  have plain : subject.Plain := ⟨by simp [subject], by simp [subject], by decide⟩
  have told := fun status =>
    (enumerate_of_two_replies client subject plain (overfull status).system [] _ _
      ⟨rfl, rfl⟩).1
  exact ⟨(told 0).trans rfl, (told Status.moreData).trans rfl⟩

structure AnswersName (machine : Option String) (index : UInt32) (system : System)
    (past : List Exchange) (probe fetch : LookupReply) : Prop where
  first : c.nameReply machine index .probe system past = probe
  second : c.nameReply machine index (.allocate c.encoding probe.name.announced) system
    (past ++ [c.nameExchange machine index .probe system past]) = fetch

section Names
variable {c} {machine : Option String} (plain : ∀ s ∈ machine, Text.hasNul s = false)
  {index : UInt32} {system : System} {past : List Exchange} {probe fetch : LookupReply}
  (h : c.AnswersName machine index system past probe fetch)
include plain h

theorem run_nameOf_empty (announces : Status.Announces probe.status)
    (none : probe.name.announced = 0) :
    ((c.nameOf machine index).run system past).value = .ok "" ∧
      ((c.nameOf machine index).run system past).exchanges =
        [c.nameExchange machine index .probe system past] := by
  have empty : (Slot.probe.receive probe.name).size = 0 := none
  have good := (Status.announcesSize_iff _).mpr announces
  rw [c.nameOf_of_plain plain, findName, value_bind, exchanges_bind,
    c.run_askName index plain _ _ .probe, h.first, trace, value_say_bind, exchanges_say_bind,
    if_pos good, if_pos empty, debug, value_say_bind, exchanges_say_bind]
  exact ⟨rfl, List.append_nil _⟩

theorem mapError_nameOf :
    let units := c.encoding.units (c.encoding.filled probe.name.announced fetch.name.data)
    let asked := c.nameAsked machine index system past probe.name.announced
    ((c.nameOf machine index).run system past).value.mapError CallError.status =
      if probe.status = Status.success ∨ probe.status = Status.moreData then
        if probe.name.announced = 0 then .ok ""
        else if fetch.status = Status.success then
          .ok ((Wire.readUnits c.platform c.encoding (Wire.stringUnits units)).run system
            asked).value
        else .error fetch.status
      else .error probe.status := by
  intro units asked
  by_cases announces : probe.status = Status.success ∨ probe.status = Status.moreData
  · rw [if_pos announces]
    by_cases none : probe.name.announced = 0
    · rw [if_pos none, (run_nameOf_empty plain h announces none).1]
      rfl
    · have fetches : c.FetchesName machine index system past probe.name.announced fetch :=
        ⟨by rwa [h.first], by rw [h.first], none, h.second⟩
      rw [if_neg none, c.value_nameOf_fetched index plain system past fetches]
      by_cases success : fetch.status = Status.success
      · rw [if_pos success, if_pos success, Wire.readString, Slot.stringUnits_receive]
        rfl
      · rw [if_neg success, if_neg success, mapError_fail]
  · have refused : ¬ Status.announcesSize probe.status = true :=
      fun good => announces ((Status.announcesSize_iff _).mp good)
    rw [if_neg announces, c.nameOf_of_plain plain, findName, value_bind,
      c.run_askName index plain _ _ .probe, h.first, trace, value_say_bind, if_neg refused,
      mapError_fail]

end Names

/-- The name is read from the units before the first zero in a buffer of the announced size. -/
theorem nameOf_of_two_replies (c : Client) (machine : Option String)
    (plain : ∀ s ∈ machine, Text.hasNul s = false) (index : UInt32) (system : System)
    (past : List Exchange) (probe fetch : LookupReply)
    (h : c.AnswersName machine index system past probe fetch) :
    let size := probe.name.announced
    let bytes := c.encoding.filled size fetch.name.data
    let string := (c.encoding.units bytes).takeWhile (· ≠ 0)
    let asked := c.nameAsked machine index system past size
    let text := ((Wire.readUnits c.platform c.encoding string).run system asked).value
    let found := (c.nameOf machine index).run system past
    (found.value.mapError CallError.status =
      if probe.status = Status.success ∨ probe.status = Status.moreData then
        if size = 0 then .ok ""
        else if fetch.status = Status.success then .ok text
        else .error fetch.status
      else .error probe.status) ∧
    (probe.status = Status.success ∨ probe.status = Status.moreData → size = 0 →
      found.exchanges = [c.nameExchange machine index .probe system past]) ∧
    (c.encoding.units bytes).length = size.toNat ∧
    (c.encoding = .wide → Text.Utf16.Reads string text.toList ∧ '\x00' ∉ text.toList) ∧
    (c.encoding = .narrow → text =
      ((Wire.readNarrow c.platform (bytes.takeWhile (· ≠ 0))).run system asked).value) := by
  intro size bytes string asked text found
  refine ⟨mapError_nameOf plain h,
    fun announces none => (run_nameOf_empty plain h announces none).2,
    c.encoding.length_units_filled _ _, fun wide => ?_, fun narrow => ?_⟩
  · have reads : Text.Utf16.Reads string text.toList :=
      Wire.reads_readUnits c.platform wide string system asked
    exact ⟨reads, reads.nul_not_mem (Wire.zero_not_mem_stringUnits _)⟩
  · exact congrArg (fun query => (query.run system asked).value)
      (Wire.readUnits_stringUnits c.platform narrow bytes)

def torn : Script where
  replies :=
    [{ status := Status.success, name := { size := some 4 } },
      { status := Status.success
        name := { size := some 1, data := [0x41, 0x00, 0x00, 0xD8, 0x42] } }]

theorem nameOf_of_two_replies_torn :
    (((native .wide).nameOf none 6).run torn.system []).value.mapError CallError.status =
      .ok "A\uFFFDB" ∧ Text.Utf16.Reads [0x41, 0xD800, 0x42] ['A', '\uFFFD', 'B'] := by
  obtain ⟨outcome, -, -, wide, -⟩ :=
    nameOf_of_two_replies (native .wide) none (by simp) 6 torn.system [] _ _ ⟨rfl, rfl⟩
  exact ⟨outcome.trans rfl, (wide rfl).1⟩

end Client

end CounterCatalog
