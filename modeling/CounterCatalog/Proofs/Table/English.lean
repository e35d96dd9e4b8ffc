import CounterCatalog.Proofs.Registry.Key
import CounterCatalog.Proofs.Registry.Reading
import CounterCatalog.Proofs.Table.Index
import CounterCatalog.Proofs.Wire.Terminated
import CounterCatalog.Proofs.Wire.Texts
import CounterCatalog.System.Script
import CounterCatalog.Table.Source

set_option autoImplicit false

namespace CounterCatalog.Table

open Query Registry

def opened (system : System) (past : List Exchange) : OpenReply :=
  system past (.openKey localMachine englishKey readAccess)

def pastOpening (system : System) (past : List Exchange) : List Exchange :=
  past ++ [⟨.openKey localMachine englishKey readAccess, opened system past⟩]

def openedValue (system : System) (past : List Exchange) : ValueName where
  key := (opened system past).handle
  name := englishValue

/-- The key does not open, its value cannot be read, or the value is of another type. -/
inductive ReadFails (p : Platform) (system : System) (past : List Exchange) : Prop where
  | opening (status : (opened system past).status ≠ 0)
  | reading (status : (opened system past).status = 0) (error : CallError)
      (read : ((readValue p (openedValue system past) true).run system
        (pastOpening system past)).value = .error error)
  | typing (status : (opened system past).status = 0) (buffer : Buffer) (type : UInt32)
      (read : ((readValue p (openedValue system past) true).run system
        (pastOpening system past)).value = .ok (buffer, type))
      (other : type ≠ multiString)

theorem englishKey_plain : Text.hasNul englishKey = false := by decide

theorem englishValue_plain : Text.hasNul englishValue = false := by decide

theorem englishKey_terminable : Text.isTerminable englishKey :=
  Text.isTerminable_of_not_hasNul englishKey_plain

theorem beforeNul_englishKey : Text.beforeNul englishKey = englishKey :=
  Text.beforeNul_eq_self englishKey_plain

section Reads
variable {p : Platform} {system : System} {past : List Exchange}

theorem answer_eq_opened :
    system past (.openKey localMachine (Text.beforeNul englishKey) readAccess) =
      opened system past :=
  beforeNul_englishKey.symm ▸ rfl

theorem run_openForReading_english (status : (opened system past).status = 0) :
    (openForReading p localMachine englishKey).run system past =
      { value := .ok (opened system past).handle
        exchanges := [⟨.openKey localMachine englishKey readAccess, opened system past⟩] } := by
  have run := run_openForReading_success (p := p) englishKey_terminable answer_eq_opened status
  rwa [beforeNul_englishKey] at run

theorem run_readEnglish_of_opened (status : (opened system past).status = 0) :
    (readEnglish p).run system past =
      let strings := (readStrings p (openedValue system past)).run system
        (pastOpening system past)
      let release := (releaseKey p (opened system past).handle).run system
        (pastOpening system past ++ strings.exchanges)
      { value := strings.value
        exchanges := ⟨.openKey localMachine englishKey readAccess, opened system past⟩ ::
          (strings.exchanges ++ release.exchanges)
        log := strings.log ++ release.log } := by
  rw [readEnglish, run_bind, run_openForReading_english status]
  dsimp only
  rw [run_bind, run_bind]
  dsimp only [run_pure]
  rw [List.append_nil, List.append_nil]
  rfl

theorem value_readEnglish_of_opened (status : (opened system past).status = 0) :
    ((readEnglish p).run system past).value =
      ((readStrings p (openedValue system past)).run system (pastOpening system past)).value := by
  rw [run_readEnglish_of_opened status]

theorem readEnglish_of_refused (status : (opened system past).status ≠ 0) :
    ofKind .registry ((readEnglish p).run system past).exchanges =
        [⟨.openKey localMachine englishKey readAccess, opened system past⟩] ∧
      ∃ error, ((readEnglish p).run system past).value = .error error ∧
        error.status = (opened system past).status := by
  obtain ⟨error, value, own⟩ :=
    value_openForReading_failure (p := p) englishKey_terminable answer_eq_opened status
  have calls := ofKind_openForReading_failure (p := p) englishKey_terminable answer_eq_opened status
  rw [readEnglish, exchanges_bind, value_bind, value, ofKind_append, calls, beforeNul_englishKey]
  exact ⟨rfl, error, rfl, own⟩

theorem value_readEnglish_of_fails (h : ReadFails p system past) :
    ∃ error, ((readEnglish p).run system past).value = .error error := by
  cases h with
  | opening status =>
    obtain ⟨-, error, value, -⟩ := readEnglish_of_refused (p := p) status
    exact ⟨error, value⟩
  | reading status error read =>
    rw [value_readEnglish_of_opened status, readStrings, value_bind, read]
    exact ⟨error, rfl⟩
  | typing status buffer type read other =>
    rw [value_readEnglish_of_opened status, readStrings, value_bind, read]
    dsimp only
    rw [if_neg other]
    exact ⟨typeError type, rfl⟩

theorem value_readEnglish_of_holds {type : UInt32} {bytes : List UInt8}
    (status : (opened system past).status = 0)
    (h : Holds system (opened system past).handle englishValue type bytes)
    (small : bytes.length ≤ sizeLimit) :
    ((readEnglish p).run system past).value =
      if type = multiString then
        .ok ((Wire.terminatedEntries (Encoding.wide.units bytes)).map Text.Utf16.decode)
      else .error (typeError type) := by
  have name : Text.isTerminable (openedValue system past).name :=
    Text.isTerminable_of_not_hasNul englishValue_plain
  have held : Holds system (openedValue system past).key
      (Text.beforeNul (openedValue system past).name) type bytes := by
    change Holds system _ (Text.beforeNul englishValue) type bytes
    rw [Text.beforeNul_eq_self englishValue_plain]
    exact h
  rw [value_readEnglish_of_opened status]
  exact readStrings_of_holds held small name _

theorem value_lookupIndex_of_ok {s : Source} {table : List String}
    (read : ((s.read p).run system past).value = .ok table) (name : String) :
    ((s.lookupIndex p name).run system past).value = indexOf table name := by
  rw [Source.lookupIndex, value_bind, read]
  exact value_findIndex table name system _

theorem value_lookupIndex_of_error {s : Source} {error : CallError}
    (read : ((s.read p).run system past).value = .error error) (name : String) :
    ((s.lookupIndex p name).run system past).value = 0 := by
  rw [Source.lookupIndex, value_bind, read]
  rfl

end Reads

theorem decode_terminatedEntries {list : List String} (some : list ≠ [])
    (h : ∀ s ∈ list, s ≠ "" ∧ Text.hasNul s = false) :
    (Wire.terminatedEntries (Encoding.wide.units (Encoding.wideBytes
      (Wire.listUnits (list.map Text.Utf16.encode))))).map Text.Utf16.decode = list := by
  have entries : ∀ e ∈ list.map Text.Utf16.encode, e ≠ [] ∧ 0 ∉ e := by
    intro e he
    obtain ⟨s, hs, rfl⟩ := List.mem_map.mp he
    obtain ⟨filled, plain⟩ := h s hs
    exact ⟨fun none => filled (Text.Utf16.encode_eq_nil.mp none),
      Text.Utf16.zero_not_mem_encode plain⟩
  change (Wire.terminatedEntries (Encoding.wideUnits _)).map _ = _
  rw [Encoding.wideUnits_wideBytes,
    Wire.terminatedEntries_listUnits (by simpa using some) entries, Text.map_decode_encode]

/-- From an honest registry the table is the list that its value was written from, and every name
has the index that it has there. Whatever makes the read fail, every name is unknown. -/
theorem english_table_of_registry (p : Platform) (system : System) (past : List Exchange) :
    (∀ type bytes, (opened system past).status = 0 →
      Holds system (opened system past).handle englishValue type bytes →
      bytes.length ≤ sizeLimit →
      (type ≠ multiString → ∃ error, ((readEnglish p).run system past).value = .error error ∧
        error.status = invalidData) ∧
      (type = multiString → ((readEnglish p).run system past).value =
        .ok ((Wire.terminatedEntries (Encoding.wideUnits bytes)).map Text.Utf16.decode)) ∧
      ∀ list : List String, type = multiString → list ≠ [] →
        (∀ s ∈ list, s ≠ "" ∧ Text.hasNul s = false) →
        bytes = Encoding.wideBytes (Wire.listUnits (list.map Text.Utf16.encode)) →
        ((readEnglish p).run system past).value = .ok list ∧
        ∀ name, ((Source.registry.lookupIndex p name).run system past).value =
          ((findIndex list name).run system past).value) ∧
    (ReadFails p system past → (∃ error, ((readEnglish p).run system past).value = .error error) ∧
      ∀ name, ((Source.registry.lookupIndex p name).run system past).value = 0) := by
  constructor
  · intro type bytes status h small
    have read := value_readEnglish_of_holds (p := p) status h small
    refine ⟨fun other => ?_, fun same => ?_, fun list same some plain written => ?_⟩
    · rw [if_neg other] at read
      exact ⟨_, read, rfl⟩
    · rw [if_pos same] at read
      exact read
    · rw [if_pos same, written, decode_terminatedEntries some plain] at read
      refine ⟨read, fun name => ?_⟩
      rw [value_findIndex]
      exact value_lookupIndex_of_ok (s := .registry) read name
  · intro fails
    obtain ⟨error, read⟩ := value_readEnglish_of_fails fails
    exact ⟨⟨error, read⟩, value_lookupIndex_of_error (s := .registry) read⟩

def written : Script where
  values := [.holding (some multiString)
    (Encoding.wideBytes (Wire.listUnits (["6", "Système 🦀"].map Text.Utf16.encode)))]

theorem english_table_of_registry_written :
    ((readEnglish .windows).run written.system []).value = .ok ["6", "Système 🦀"] ∧
      ((Source.registry.lookupIndex .windows "Système 🦀").run written.system []).value = 6 ∧
      ((Source.registry.lookupIndex .windows "System").run
        ({ openStatus := 5 } : Script).system []).value = 0 := by
  have holds : Holds written.system (opened written.system []).handle englishValue multiString
      (Encoding.wideBytes (Wire.listUnits (["6", "Système 🦀"].map Text.Utf16.encode))) :=
    Script.holds rfl
  obtain ⟨read, index⟩ := ((english_table_of_registry .windows written.system []).1 _ _ rfl holds
    (by decide)).2.2 ["6", "Système 🦀"] rfl (by decide) (by decide) rfl
  refine ⟨read, ?_, ?_⟩
  · rw [index, value_findIndex]
    decide
  · exact ((english_table_of_registry .windows _ []).2 (.opening (by decide))).2 "System"

end CounterCatalog.Table
