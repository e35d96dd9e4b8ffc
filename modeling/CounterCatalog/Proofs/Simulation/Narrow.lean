import CounterCatalog.Proofs.Counter.Reply
import CounterCatalog.Proofs.Simulation.Room
import CounterCatalog.Proofs.Text.Ambiguous
import CounterCatalog.Proofs.Wire.Texts
import Mathlib.Data.List.Forall2
import Mathlib.Data.List.TakeWhile

set_option autoImplicit false

namespace CounterCatalog

open Query Text

namespace Wire

theorem bytes_units_narrow (bytes : List UInt8) :
    Encoding.narrow.bytes (Encoding.narrow.units bytes) = bytes := by
  change (bytes.map (·.toUInt16)).map (·.toUInt8) = bytes
  calc (bytes.map (·.toUInt16)).map (·.toUInt8)
      = bytes.map id := by
        rw [List.map_map]
        exact List.map_congr_left fun byte _ => UInt8.toUInt8_toUInt16 byte
    _ = bytes := List.map_id bytes

theorem value_readEntries_plain (es : List (List UInt16)) (system : System)
    (past : List Exchange) :
    ((readEntries .plain .narrow es).run system past).value =
      es.map fun entry => readPlain (Encoding.narrow.bytes entry) := by
  induction es generalizing past with
  | nil => rfl
  | cons entry es ih =>
    rw [readEntries, value_bind, value_map, ih]
    rfl

end Wire

namespace Simulation

theorem countable_narrow {data : List UInt8} (few : data.length < UInt32.size) :
    Countable .narrow data where
  whole := by
    change data.length / 1 * 1 = data.length
    omega
  few := by
    change data.length / 1 < UInt32.size
    omega

theorem stringUnits_nameBytes_narrow {name : String} (some : name ≠ "")
    (plain : hasNul name = false) :
    Encoding.narrow.bytes (Wire.stringUnits (Encoding.narrow.units (nameBytes .narrow name))) =
      CodePage.encode name := by
  have written : nameBytes .narrow name = CodePage.encode name ++ [0] ++ [] := by
    rw [nameBytes, if_neg some, List.append_nil]
    rfl
  rw [written, Encoding.stringUnits_narrow (CodePage.zero_not_mem_encode plain)]

theorem units_listBytes_narrow {texts : List String} (some : texts ≠ []) :
    Encoding.narrow.units (listBytes .narrow texts) =
      Wire.listUnits (texts.map fun text => Encoding.narrow.units (CodePage.encode text)) := by
  have strings : Encoding.narrow.units (texts.flatMap (stringBytes .narrow)) =
      (texts.map fun text => Encoding.narrow.units (CodePage.encode text)).flatMap (· ++ [0]) := by
    clear some
    induction texts with
    | nil => rfl
    | cons s texts ih =>
      rw [List.flatMap_cons, List.map_cons, List.flatMap_cons, ← ih]
      exact (List.map_append).trans
        (congrArg (· ++ _) (Encoding.units_append_terminator_narrow _))
  rw [listBytes, if_neg some, Encoding.units_append_terminator_narrow, strings]
  rfl

theorem map_bytes_entries_narrow {texts : List String}
    (h : ∀ text ∈ texts, text ≠ "" ∧ hasNul text = false) :
    (Wire.entries (Encoding.narrow.units (listBytes .narrow texts))).map Encoding.narrow.bytes =
      texts.map CodePage.encode := by
  by_cases none : texts = []
  · subst none
    rfl
  · rw [units_listBytes_narrow none, Wire.entries_listUnits_of_plain, List.map_map]
    · exact List.map_congr_left fun text _ => Wire.bytes_units_narrow _
    · intro entry he
      obtain ⟨text, ht, rfl⟩ := List.mem_map.mp he
      obtain ⟨filled, plain⟩ := h text ht
      refine ⟨fun none => CodePage.encode_ne_nil filled (List.map_eq_nil_iff.mp none), ?_⟩
      rw [Encoding.zero_mem_units_narrow]
      exact CodePage.zero_not_mem_encode plain

section Questions
variable {s : Simulation} (probe : s.probeStatus = none) (fetch : s.fetchStatus = none)
include probe fetch

theorem statusOf_of_honest (isProbe fit : Bool) :
    s.statusOf isProbe fit = if fit then Status.success else Status.moreData := by
  cases isProbe <;> simp [statusOf, probe, fetch]

section Client
variable {c : Client} (direct : c.binding = .direct) (narrow : c.encoding = .narrow)
  (past : List Exchange)
include direct narrow

theorem nameReply_stored {index : UInt32} {name : String} (stored : s.nameOf? index = some name)
    (machine : Option String) (slot : Slot) :
    c.nameReply machine index slot s.system past =
      { status :=
          if fits slot (nameBytes .narrow name) then Status.success else Status.moreData
        name := fill .narrow slot (nameBytes .narrow name) } := by
  rw [Client.nameReply, Client.nameRequest, direct, narrow]
  change s.lookup _ = _
  simp only [lookup, stored, statusOf_of_honest probe fetch]

theorem fetchesName {index : UInt32} {name : String} (stored : s.nameOf? index = some name)
    (some : name ≠ "") (few : (nameBytes .narrow name).length < UInt32.size)
    (machine : Option String) :
    c.FetchesName machine index s.system past (unitCount .narrow (nameBytes .narrow name))
      { status := Status.success
        name := fill .narrow (.allocate .narrow (unitCount .narrow (nameBytes .narrow name)))
          (nameBytes .narrow name) } := by
  have data := countable_narrow few
  have filled : nameBytes .narrow name ≠ [] := by
    rw [nameBytes, if_neg some]
    simp [stringBytes, Encoding.terminator, Encoding.width]
  have reply := fun past => nameReply_stored probe fetch direct narrow past stored machine
  constructor
  · rw [reply]
    dsimp only
    split
    · exact .inl rfl
    · exact .inr rfl
  · rw [reply]
    rfl
  · exact fun none => filled (data.unitCount_eq_zero_iff.mp none)
  · rw [narrow, reply, data.fits_allocate]
    rfl

theorem itemsReply_stored (subject : Client.Subject) (counters instances : Slot) :
    c.itemsReply subject counters instances s.system past =
      { status :=
          if fits counters (listBytes .narrow s.counters) &&
            fits instances (listBytes .narrow s.instances) then Status.success
          else Status.moreData
        counters := fill .narrow counters (listBytes .narrow s.counters)
        instances := fill .narrow instances (listBytes .narrow s.instances) } := by
  rw [Client.itemsReply, Client.itemsRequest, direct, narrow]
  change s.enumerate _ = _
  simp only [enumerate, statusOf_of_honest probe fetch]

theorem fetchesItems (fewCounters : (listBytes .narrow s.counters).length < UInt32.size)
    (fewInstances : (listBytes .narrow s.instances).length < UInt32.size)
    (subject : Client.Subject) :
    let counters := unitCount .narrow (listBytes .narrow s.counters)
    let instances := unitCount .narrow (listBytes .narrow s.instances)
    c.FetchesItems subject s.system past counters instances
      { status := Status.success
        counters := fill .narrow (Client.listSlot .narrow counters) (listBytes .narrow s.counters)
        instances :=
          fill .narrow (Client.listSlot .narrow instances) (listBytes .narrow s.instances) } := by
  intro counters instances
  have reply := fun past => itemsReply_stored probe fetch direct narrow past subject
  constructor
  · rw [reply]
    dsimp only
    split
    · exact .inl rfl
    · exact .inr rfl
  · rw [reply]
    rfl
  · rw [reply]
    rfl
  · rw [narrow, reply, (countable_narrow fewCounters).fits_listSlot,
      (countable_narrow fewInstances).fits_listSlot]
    rfl

section Readings
variable (portable : c.platform = .plain)
include portable

theorem value_nameOf_narrow {machine : Option String}
    (plain : ∀ text ∈ machine, hasNul text = false) {index : UInt32} {name : String}
    (stored : s.nameOf? index = some name) (some : name ≠ "") (whole : hasNul name = false)
    (few : (nameBytes .narrow name).length < UInt32.size) :
    ((c.nameOf machine index).run s.system past).value =
      .ok (Wire.readPlain (CodePage.encode name)) := by
  rw [c.value_nameOf_fetched index plain _ _
    (fetchesName probe fetch direct narrow past stored some few machine), if_pos rfl, narrow,
    portable, Wire.readString, (countable_narrow few).stringUnits_receive, value_map]
  change Except.ok (Wire.readPlain _) = _
  rw [stringUnits_nameBytes_narrow some whole]

theorem value_enumerate_narrow
    (fewCounters : (listBytes .narrow s.counters).length < UInt32.size)
    (fewInstances : (listBytes .narrow s.instances).length < UInt32.size)
    (texts : ∀ text ∈ s.counters ++ s.instances, text ≠ "" ∧ hasNul text = false)
    {subject : Client.Subject} (plain : subject.Plain) :
    ((c.enumerate subject).run s.system past).value =
      .ok { counters := s.counters.map fun text => Wire.readPlain (CodePage.encode text)
            instances := s.instances.map fun text => Wire.readPlain (CodePage.encode text) } := by
  have read : ∀ texts, (∀ text ∈ texts, text ≠ "" ∧ hasNul text = false) →
      (Wire.entries (Encoding.narrow.units (listBytes .narrow texts))).map
        (fun entry => Wire.readPlain (Encoding.narrow.bytes entry)) =
      texts.map fun text => Wire.readPlain (CodePage.encode text) := by
    intro texts h
    have bytes := congrArg (List.map Wire.readPlain) (map_bytes_entries_narrow h)
    rwa [List.map_map, List.map_map] at bytes
  rw [c.value_enumerate_fetched plain _ _
    (fetchesItems probe fetch direct narrow past fewCounters fewInstances subject), if_pos rfl,
    Client.itemsRead, narrow, portable, value_bind, value_map, Wire.readList, Wire.readList,
    (countable_narrow fewCounters).entries_receive,
    (countable_narrow fewInstances).entries_receive, Wire.value_readEntries_plain,
    Wire.value_readEntries_plain, read _ fun text ht => texts text (List.mem_append_left _ ht),
    read _ fun text ht => texts text (List.mem_append_right _ ht)]

end Readings

end Client

end Questions

def ReadsBack (written read : String) : Prop :=
  CodePage.ReadsAs written read ∧ (CodePage.Covers written → CodePage.ComesBack written read)

theorem readsBack (text : String) : ReadsBack text (Wire.readPlain (CodePage.encode text)) :=
  ⟨CodePage.readsAs text, fun covered => (CodePage.readsAs text).comesBack covered⟩

theorem forall₂_readsBack (texts : List String) :
    List.Forall₂ ReadsBack texts
      (texts.map fun text => Wire.readPlain (CodePage.encode text)) := by
  rw [List.forall₂_map_right_iff, List.forall₂_same]
  exact fun text _ => readsBack text

/-- A name comes back as it is stored just if it is ASCII or no UTF-8 in Windows-1252, and so does
each entry of a list by itself; the entries keep their number and order. -/
theorem narrow_round_trip (s : Simulation) (probe : s.probeStatus = none)
    (fetch : s.fetchStatus = none) (c : Client) (portable : c.platform = .plain)
    (direct : c.binding = .direct) (narrow : c.encoding = .narrow) (past : List Exchange) :
    (∀ machine : Option String, (∀ text ∈ machine, hasNul text = false) → ∀ index name,
      s.nameOf? index = some name → name ≠ "" → hasNul name = false →
      (nameBytes .narrow name).length < UInt32.size →
      ∃ text, ((c.nameOf machine index).run s.system past).value = .ok text ∧
        ReadsBack name text) ∧
    ∀ subject : Client.Subject, subject.Plain →
      (∀ text ∈ s.counters ++ s.instances, text ≠ "" ∧ hasNul text = false) →
      (listBytes .narrow s.counters).length < UInt32.size →
      (listBytes .narrow s.instances).length < UInt32.size →
      ∃ items, ((c.enumerate subject).run s.system past).value = .ok items ∧
        List.Forall₂ ReadsBack s.counters items.counters ∧
        List.Forall₂ ReadsBack s.instances items.instances := by
  constructor
  · intro machine plain index name stored some whole few
    exact ⟨_, value_nameOf_narrow probe fetch direct narrow past portable plain stored some whole
      few, readsBack name⟩
  · intro subject plain texts fewCounters fewInstances
    exact ⟨_, value_enumerate_narrow probe fetch direct narrow past portable fewCounters
      fewInstances texts plain, forall₂_readsBack _, forall₂_readsBack _⟩

def ambiguous : Simulation where
  names := [(6, "Ã©tÃ©")]
  counters := ["Mémoire", "Â°C", "% Zeit", "числа"]

theorem narrow_round_trip_ambiguous :
    let client : Client := { platform := .plain, binding := .direct, encoding := .narrow }
    let subject : Client.Subject :=
      { source := none, machine := none, object := "6", detail := 400 }
    (∃ text, ((client.nameOf none 6).run ambiguous.system []).value = .ok text ∧
      ReadsBack "Ã©tÃ©" text) ∧
    ∃ items, ((client.enumerate subject).run ambiguous.system []).value = .ok items ∧
      List.Forall₂ ReadsBack ["Mémoire", "Â°C", "% Zeit", "числа"] items.counters := by
  intro client subject
  obtain ⟨names, lists⟩ := narrow_round_trip ambiguous rfl rfl client rfl rfl rfl []
  constructor
  · exact names none (by simp) 6 _ (by decide) (by decide) (by decide) (by decide)
  · obtain ⟨items, value, counters, -⟩ := lists subject
      ⟨by simp [subject], by simp [subject], by decide⟩ (by decide) (by decide) (by decide)
    exact ⟨items, value, counters⟩

end Simulation

end CounterCatalog
