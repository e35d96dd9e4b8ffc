import CounterCatalog.Proofs.Simulation.RoundTrip
import CounterCatalog.Proofs.Table.English
import CounterCatalog.Proofs.Table.Listing

set_option autoImplicit false

namespace CounterCatalog

open Query

namespace Client

section Composition
variable (c : Client) {source : Table.Source} (machine : Option String) {name : String}
  {system : System} {past : List Exchange}

theorem localizedName_of_unknown
    (unknown : ((source.lookupIndex c.platform name).run system past).value = 0) :
    (c.localizedName source machine name).run system past =
      { (source.lookupIndex c.platform name).run system past with value := .ok none } := by
  rw [localizedName, run_bind, unknown, if_pos rfl, run_pure]
  dsimp only
  rw [List.append_nil, List.append_nil]

theorem localizedName_of_known {index : UInt32} (listed : index ≠ 0)
    (known : ((source.lookupIndex c.platform name).run system past).value = index) :
    let later := past ++ ((source.lookupIndex c.platform name).run system past).exchanges
    ((c.localizedName source machine name).run system past).value =
      ((c.nameOf machine index).run system later).value.map some ∧
    ofKind .counters ((c.localizedName source machine name).run system past).exchanges =
      ofKind .counters ((c.nameOf machine index).run system later).exchanges := by
  intro later
  rw [localizedName, value_bind, exchanges_bind, known, if_neg listed, ofKind_append,
    (source.lookupIndex_only name).ofKind_eq_nil, List.nil_append, value_map, exchanges_map]
  exact ⟨rfl, rfl⟩

end Composition

end Client

namespace Simulation

variable {s : Simulation}

theorem nameAnswer_of_honest (probe : s.probeStatus = none) (fetch : s.fetchStatus = none)
    (index : UInt32) :
    s.nameAnswer index =
      match s.nameOf? index with
      | none => .error Status.noObject
      | some name => .ok (Text.beforeNul name) := by
  cases h : s.nameOf? index with
  | none =>
    have probed : s.nameProbe index = Status.noObject := by simp [nameProbe, probe, h]
    rw [nameAnswer, probed]
    rfl
  | some name =>
    by_cases empty : name = ""
    · have probed : s.nameProbe index = Status.success := by simp [nameProbe, probe, h, empty]
      subst empty
      rw [nameAnswer, probed, h]
      rfl
    · have probed : s.nameProbe index = Status.moreData := by simp [nameProbe, probe, h, empty]
      rw [nameAnswer, probed, h]
      simp [Status.announcesSize, empty, fetched, fetch]

theorem memoryless (past other : List Exchange) (call : Call) :
    s.system past call = s.system other call := rfl

section Asking
variable {c : Client} (direct : c.binding = .direct) (wide : c.encoding = .wide)
  {machine : Option String} (plain : ∀ text ∈ machine, Text.hasNul text = false)
  (probe : s.probeStatus = none) (fetch : s.fetchStatus = none) {index : UInt32}
  (past : List Exchange)
include direct wide plain probe fetch

theorem value_nameOf_stored {stored : String} (h : s.nameOf? index = some stored)
    (few : (nameBytes .wide stored).length / 2 < UInt32.size)
    (whole : Text.hasNul stored = false) :
    ((c.nameOf machine index).run s.system past).value = .ok stored := by
  have small : ∀ name ∈ s.nameOf? index, (nameBytes .wide name).length / 2 < UInt32.size := by
    rintro name found
    cases h.symm.trans found
    exact few
  have answer := Client.value_findName_of_few past direct wide machine small
  rw [nameAnswer_of_honest probe fetch, h] at answer
  rw [c.nameOf_of_plain plain, CallError.eq_ok_of_mapError answer, Text.beforeNul_eq_self whole]

theorem exists_error_nameOf_missing (h : s.nameOf? index = none) :
    ∃ error, ((c.nameOf machine index).run s.system past).value = .error error ∧
      error.status = Status.noObject := by
  have small : ∀ name ∈ s.nameOf? index, (nameBytes .wide name).length / 2 < UInt32.size := by
    rintro name found
    cases h.symm.trans found
  have answer := Client.value_findName_of_few past direct wide machine small
  rw [nameAnswer_of_honest probe fetch, h] at answer
  rw [c.nameOf_of_plain plain]
  exact CallError.exists_error_of_mapError answer

end Asking

section Tables
variable {p : Platform} {past : List Exchange} {name : String}

theorem value_lookupIndex_listing {entries : List (UInt32 × String)}
    (listed : s.table = .ok (Table.listing entries)) :
    ((Table.Source.provided.lookupIndex p name).run s.system past).value =
      Table.indexOf (Table.listing entries) name := by
  have read : ((Table.Source.provided.read p).run s.system past).value =
      Table.ofProvider (.ok (Table.listing entries)) := congrArg Table.ofProvider listed
  exact Table.value_lookupIndex_of_ok read name

theorem value_lookupIndex_failing {status : UInt32} (failing : s.table = .error status) :
    ((Table.Source.provided.lookupIndex p name).run s.system past).value = 0 := by
  have read : ((Table.Source.provided.read p).run s.system past).value =
      Table.ofProvider (.error status) := congrArg Table.ofProvider failing
  exact Table.value_lookupIndex_of_error read name

end Tables

/-- A localized name is the name of the first index that the table lists the English name with.
Nothing is asked for if it lists none. -/
theorem localizedName_composes (s : Simulation)
    (few : ∀ index, ∀ name ∈ s.nameOf? index, (nameBytes .wide name).length / 2 < UInt32.size)
    (probe : s.probeStatus = none) (fetch : s.fetchStatus = none) (c : Client)
    (direct : c.binding = .direct) (wide : c.encoding = .wide) (machine : Option String)
    (plain : ∀ text ∈ machine, Text.hasNul text = false) (name : String)
    (past : List Exchange) :
    let localized := (c.localizedName .provided machine name).run s.system past
    ofKind .table localized.exchanges = [⟨.readTable, s.table⟩] ∧
    (∀ entries : List (UInt32 × String), (∀ e ∈ entries, 0 < e.1) →
      s.table = .ok (Table.listing entries) →
      ((∀ e ∈ entries, e.2 ≠ name) →
        localized.value = .ok none ∧ ofKind .counters localized.exchanges = []) ∧
      ∀ earlier index later, entries = earlier ++ (index, name) :: later →
        (∀ e ∈ earlier, e.2 ≠ name) →
        (∀ stored, s.nameOf? index = some stored → Text.hasNul stored = false →
          localized.value = .ok (some stored)) ∧
        (s.nameOf? index = none →
          ∃ error, localized.value = .error error ∧ error.status = Status.noObject) ∧
        ofKind .counters localized.exchanges =
          ofKind .counters ((c.nameOf machine index).run s.system past).exchanges) ∧
    ∀ status, s.table = .error status →
      localized.value = .ok none ∧ ofKind .counters localized.exchanges = [] := by
  intro localized
  have unknown : ((Table.Source.provided.lookupIndex c.platform name).run s.system past).value = 0 →
      localized.value = .ok none ∧ ofKind .counters localized.exchanges = [] := by
    intro zero
    have run := c.localizedName_of_unknown machine zero
    refine ⟨congrArg Observed.value run, ?_⟩
    exact (congrArg (fun shown => ofKind .counters shown.exchanges) run).trans
      ((Table.Source.provided.lookupIndex_only name).ofKind_eq_nil _ _)
  have once : ofKind .table localized.exchanges = [⟨.readTable, s.table⟩] :=
    c.ofKind_localizedName_of_ne (fun _ => Call.asksCounters.ne_table) _ machine name _ past
  refine ⟨once, fun entries positive listed => ⟨?_, ?_⟩, ?_⟩
  · intro unlisted
    apply unknown
    rw [value_lookupIndex_listing listed, Table.indexOf_listing_of_unlisted unlisted]
  · rintro earlier index later rfl first
    have known : ((Table.Source.provided.lookupIndex c.platform name).run s.system past).value =
        index := by
      rw [value_lookupIndex_listing listed, Table.indexOf_listing_first first]
    have above : 0 < index := positive (index, name) (by simp)
    obtain ⟨value, calls⟩ := c.localizedName_of_known machine (by rintro rfl; cases above) known
    rw [(c.nameOf_only machine index).run_of_memoryless memoryless _ past] at value calls
    refine ⟨fun stored h whole => ?_, fun h => ?_, calls⟩
    · rw [value, value_nameOf_stored direct wide plain probe fetch past h (few _ _ h) whole]
      rfl
    · obtain ⟨error, read, status⟩ :=
        exists_error_nameOf_missing direct wide plain probe fetch past h
      exact ⟨error, by rw [value, read]; rfl, status⟩
  · intro status failing
    exact unknown (value_lookupIndex_failing failing)

def listed : Simulation where
  names := [(7, "deux"), (2, ""), (9, "Système")]
  table := .ok (Table.listing [(7, "2"), (2, "System"), (9, "System"), (5, "Memory")])

theorem localizedName_composes_listed :
    let client : Client := { platform := .plain, binding := .direct, encoding := .wide }
    ((client.localizedName .provided none "System").run listed.system []).value =
        .ok (some "") ∧
      ((client.localizedName .provided none "2").run listed.system []).value =
        .ok (some "deux") ∧
      ((client.localizedName .provided none "9").run listed.system []).value = .ok none := by
  intro client
  have few : ∀ index, ∀ name ∈ listed.nameOf? index,
      (nameBytes .wide name).length / 2 < UInt32.size := by
    intro index name h
    obtain ⟨entry, member, rfl⟩ := exists_mem_names h
    have small : ∀ entry ∈ listed.names, (nameBytes .wide entry.2).length / 2 < UInt32.size := by
      decide
    exact small entry member
  have composes := fun name => localizedName_composes listed few rfl rfl client rfl rfl none
    (by simp) name []
  have entries := fun name => (composes name).2.1 _ (by decide) rfl
  refine ⟨?_, ?_, ?_⟩
  · exact ((entries "System").2 [(7, "2")] 2 _ rfl (by decide)).1 "" (by decide) (by decide)
  · exact ((entries "2").2 [] 7 _ rfl (by decide)).1 "deux" (by decide) (by decide)
  · exact ((entries "9").1 (by decide)).1

end Simulation

end CounterCatalog
