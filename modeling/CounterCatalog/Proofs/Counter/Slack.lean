import CounterCatalog.Proofs.Counter.Reply
import CounterCatalog.Proofs.Wire.Padding
import CounterCatalog.System.Script

set_option autoImplicit false

namespace CounterCatalog

open Query

/-- For the client's readings of text the two systems answer alike, whatever they were asked before.
This concerns narrow text on Windows alone; no other reading asks the system. -/
def Client.ReadsAlike (c : Client) (first second : System) : Prop :=
  ∀ past other call, call.readsText c.platform c.encoding → first past call = second other call

namespace Client

variable (c : Client)

section Readings
variable {c} {first second : System} (alike : c.ReadsAlike first second)
include alike

theorem ReadsAlike.readString (bytes : List UInt8) (past other : List Exchange) :
    (Wire.readString c.platform c.encoding bytes).run first past =
      (Wire.readString c.platform c.encoding bytes).run second other :=
  (Wire.readString_only _ _ bytes).run_alike alike past other

theorem ReadsAlike.readList (bytes : List UInt8) (past other : List Exchange) :
    (Wire.readList c.platform c.encoding bytes).run first past =
      (Wire.readList c.platform c.encoding bytes).run second other :=
  (Wire.readList_only _ _ bytes).run_alike alike past other

end Readings

section Names
variable {machine : Option String} (plain : ∀ s ∈ machine, Text.hasNul s = false)
  {index : UInt32} {system : System} {past : List Exchange} {size : UInt32} {reply : LookupReply}
  (h : c.FetchesName machine index system past size reply)
include plain h

theorem value_nameOf_roomy (success : reply.status = Status.success)
    (roomy : Roomy c.encoding size reply.name.data) :
    ((c.nameOf machine index).run system past).value =
      .ok ((Wire.readString c.platform c.encoding reply.name.data).run system
        (c.nameAsked machine index system past size)).value.1 := by
  rw [c.value_nameOf_fetched index plain _ _ h, if_pos success,
    roomy.readString_receive]

theorem exists_error_nameOf_fetched (failed : reply.status ≠ Status.success) :
    ∃ error, ((c.nameOf machine index).run system past).value = .error error ∧
      error.status = reply.status := by
  rw [c.value_nameOf_fetched index plain _ _ h, if_neg failed]
  exact CallError.exists_error_of_mapError (mapError_fail _ _ _ _)

end Names

section Items
variable {s : Subject} (plain : s.Plain) {system : System} {past : List Exchange}
  {counters instances : UInt32} {reply : EnumerationReply}
  (h : c.FetchesItems s system past counters instances reply)
include plain h

theorem exists_value_enumerate_roomy (success : reply.status = Status.success) :
    ∃ items between, ((c.enumerate s).run system past).value = .ok items ∧
      (∀ e ∈ between, e.call.readsText c.platform c.encoding) ∧
      (Roomy c.encoding counters reply.counters.data →
        items.counters = ((Wire.readList c.platform c.encoding reply.counters.data).run system
          (c.itemsAsked s system past counters instances)).value) ∧
      (Roomy c.encoding instances reply.instances.data →
        items.instances = ((Wire.readList c.platform c.encoding reply.instances.data).run system
          (c.itemsAsked s system past counters instances ++ between)).value) := by
  have value := c.value_enumerate_fetched plain system past h
  rw [if_pos success] at value
  let read := Wire.readList c.platform c.encoding
    ((listSlot c.encoding counters).receive reply.counters).content
  refine ⟨_, (read.run system (c.itemsAsked s system past counters instances)).exchanges, value,
    (Wire.readList_only _ _ _).allows _ _, fun roomy => ?_, fun roomy => ?_⟩
  · rw [← roomy.readList_receive]
    rfl
  · rw [← roomy.readList_receive]
    rfl

theorem exists_error_enumerate_fetched (failed : reply.status ≠ Status.success) :
    ∃ error, ((c.enumerate s).run system past).value = .error error ∧
      error.status = reply.status := by
  rw [c.value_enumerate_fetched plain system past h, if_neg failed]
  exact CallError.exists_error_of_mapError (mapError_fail _ _ _ _)

end Items

/-- A fetch that succeeds gives what its data reads as, however much larger the announced sizes
were, each list by itself. A fetch that fails gives its status, and no value of any length. -/
theorem value_of_slack (c : Client) (first second : System) (past other : List Exchange) :
    (∀ machine, (∀ s ∈ machine, Text.hasNul s = false) → ∀ index size reply,
      c.FetchesName machine index first past size reply →
      (reply.status = Status.success → Roomy c.encoding size reply.name.data →
        ((c.nameOf machine index).run first past).value =
          .ok ((Wire.readString c.platform c.encoding reply.name.data).run first
            (c.nameAsked machine index first past size)).value.1 ∧
        ∀ more last, c.ReadsAlike first second →
          c.FetchesName machine index second other more last →
          last.status = Status.success → last.name.data = reply.name.data →
          Roomy c.encoding more reply.name.data →
          ((c.nameOf machine index).run second other).value =
            ((c.nameOf machine index).run first past).value) ∧
      (reply.status ≠ Status.success →
        ∃ error, ((c.nameOf machine index).run first past).value = .error error ∧
          error.status = reply.status)) ∧
    ∀ s : Subject, s.Plain → ∀ counters instances reply,
      c.FetchesItems s first past counters instances reply →
      (reply.status = Status.success →
        ∃ items between, ((c.enumerate s).run first past).value = .ok items ∧
          (∀ e ∈ between, e.call.readsText c.platform c.encoding) ∧
          (Roomy c.encoding counters reply.counters.data →
            items.counters = ((Wire.readList c.platform c.encoding reply.counters.data).run first
              (c.itemsAsked s first past counters instances)).value) ∧
          (Roomy c.encoding instances reply.instances.data →
            items.instances =
              ((Wire.readList c.platform c.encoding reply.instances.data).run first
                (c.itemsAsked s first past counters instances ++ between)).value) ∧
          ∀ moreCounters moreInstances last, c.ReadsAlike first second →
            c.FetchesItems s second other moreCounters moreInstances last →
            last.status = Status.success →
            ∃ others, ((c.enumerate s).run second other).value = .ok others ∧
              (last.counters.data = reply.counters.data →
                Roomy c.encoding counters reply.counters.data →
                Roomy c.encoding moreCounters reply.counters.data →
                others.counters = items.counters) ∧
              (last.instances.data = reply.instances.data →
                Roomy c.encoding instances reply.instances.data →
                Roomy c.encoding moreInstances reply.instances.data →
                others.instances = items.instances)) ∧
      (reply.status ≠ Status.success →
        ∃ error, ((c.enumerate s).run first past).value = .error error ∧
          error.status = reply.status) := by
  constructor
  · intro machine plain index size reply h
    refine ⟨fun success roomy => ?_, c.exists_error_nameOf_fetched plain h⟩
    have value := c.value_nameOf_roomy plain h success roomy
    refine ⟨value, fun more last alike g successful same enough => ?_⟩
    rw [← same] at enough
    rw [value, c.value_nameOf_roomy plain g successful enough, same, alike.readString]
  · intro s plain counters instances reply h
    refine ⟨fun success => ?_, c.exists_error_enumerate_fetched plain h⟩
    obtain ⟨items, between, value, only, ofCounters, ofInstances⟩ :=
      c.exists_value_enumerate_roomy plain h success
    refine ⟨items, between, value, only, ofCounters, ofInstances, ?_⟩
    intro moreCounters moreInstances last alike g successful
    obtain ⟨others, rest, otherValue, -, otherCounters, otherInstances⟩ :=
      c.exists_value_enumerate_roomy plain g successful
    refine ⟨others, otherValue, fun same roomy enough => ?_, fun same roomy enough => ?_⟩
    · rw [← same] at enough
      rw [otherCounters enough, ofCounters roomy, same, alike.readList]
    · rw [← same] at enough
      rw [otherInstances enough, ofInstances roomy, same, alike.readList]

def shrunk (announced status : UInt32) : Script where
  replies :=
    [{ status := Status.moreData, name := { size := some announced }
       counters := { size := some announced }, instances := { size := some 1 } },
      { status, name := { size := some 40, data := [0x45, 0xE9, 0x53] }
        counters := { size := some 0, data := [0x45, 0xE9, 0x53] } }]

theorem shrunk_readsAlike (encoding : Encoding) (n m status other : UInt32) :
    (native encoding).ReadsAlike (shrunk n status).system (shrunk m other).system := by
  rintro past behind call ⟨kind, -, -⟩
  cases call with
  | measureAnsi | convertAnsi => rfl
  | _ => cases kind

theorem value_of_slack_shrunk :
    let client := native .narrow
    let subject : Subject := { source := none, machine := none, object := "6", detail := 400 }
    (((client.nameOf none 6).run (shrunk 9 0).system []).value = .ok "EéS" ∧
      ((client.nameOf none 6).run (shrunk 3 0).system []).value = .ok "EéS" ∧
      ∃ error, ((client.nameOf none 6).run (shrunk 2 Status.moreData).system []).value =
        .error error ∧ error.status = Status.moreData) ∧
    ∃ items others,
      ((client.enumerate subject).run (shrunk 9 0).system []).value = .ok items ∧
      ((client.enumerate subject).run (shrunk 3 0).system []).value = .ok others ∧
      items.counters = ["EéS"] ∧ others.counters = ["EéS"] := by
  intro client subject
  have alike := shrunk_readsAlike .narrow 9 3 0 0
  have slack := fun n status =>
    value_of_slack client (shrunk n status).system (shrunk 3 0).system [] []
  constructor
  · have fetches : ∀ n status, n ≠ 0 →
        client.FetchesName none 6 (shrunk n status).system [] n _ :=
      fun n status some => ⟨.inr rfl, rfl, some, rfl⟩
    have names := fun n status some =>
      (slack n status).1 none (by simp) 6 n _ (fetches n status some)
    obtain ⟨value, same⟩ := (names 9 0 (by decide)).1 rfl ⟨by decide, by decide⟩
    have other := same 3 _ alike (fetches 3 0 (by decide)) rfl rfl ⟨by decide, by decide⟩
    exact ⟨value, other.trans value, (names 2 Status.moreData (by decide)).2 (by decide)⟩
  · have fetches : ∀ n, client.FetchesItems subject (shrunk n 0).system [] n 1 _ :=
      fun n => ⟨.inr rfl, rfl, rfl, rfl⟩
    obtain ⟨items, -, value, -, read, -, same⟩ :=
      ((slack 9 0).2 subject ⟨by simp, by simp, by decide⟩ 9 1 _ (fetches 9)).1 rfl
    obtain ⟨others, otherValue, counters, -⟩ := same 3 1 _ alike (fetches 3) rfl
    have nine := read ⟨by decide, by decide⟩
    have three := counters rfl ⟨by decide, by decide⟩ ⟨by decide, by decide⟩
    exact ⟨items, others, value, otherValue, nine, three.trans nine⟩

end Client

end CounterCatalog
