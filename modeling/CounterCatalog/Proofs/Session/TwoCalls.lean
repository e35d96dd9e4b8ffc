import CounterCatalog.Proofs.Counter.Question
import CounterCatalog.System.Script
import Mathlib.Data.List.Forall2

set_option autoImplicit false

namespace CounterCatalog

open Query

inductive Client.NameCalls (c : Client) (machine : Option String) (index : UInt32) :
    List Exchange → Prop where
  | direct {es : List Exchange} (h : c.binding = .direct)
      (calls : NameNegotiation Exchange.lookup
        { encoding := c.encoding, machine, index, name := .probe } es) :
      NameCalls c machine index es
  | native {es : List Exchange} (h : c.binding = .native) (passed : Option (List UInt8))
      (lent : c.encoding.optionalArgument? machine = some passed)
      (ends : ∀ bytes ∈ passed, c.encoding.Terminated bytes)
      (calls : NameNegotiation Exchange.nativeLookup
        { encoding := c.encoding, machine := passed, index, name := .probe } es) :
      NameCalls c machine index es

inductive Client.ItemsCalls (c : Client) (s : Client.Subject) : List Exchange → Prop where
  | direct {es : List Exchange} (h : c.binding = .direct)
      (calls : ItemsNegotiation Exchange.enumerate
        { encoding := c.encoding, source := s.source, machine := s.machine, object := s.object
          counters := .probe, instances := .probe, detail := s.detail } es) :
      ItemsCalls c s es
  | native {es : List Exchange} (h : c.binding = .native)
      (source machine : Option (List UInt8)) (object : List UInt8)
      (lentSource : c.encoding.optionalArgument? s.source = some source)
      (lentMachine : c.encoding.optionalArgument? s.machine = some machine)
      (lentObject : c.encoding.argument? s.object = some object)
      (ends : (∀ bytes ∈ source, c.encoding.Terminated bytes) ∧
        (∀ bytes ∈ machine, c.encoding.Terminated bytes) ∧ c.encoding.Terminated object)
      (calls : ItemsNegotiation Exchange.nativeEnumerate
        { encoding := c.encoding, source, machine, object
          counters := .probe, instances := .probe, detail := s.detail } es) :
      ItemsCalls c s es

namespace Session

def Step.throughClient : Step → Bool
  | .nativeLookup _ | .nativeEnumerate _ => false
  | _ => true

def Step.asksCounters : Step → Bool
  | .nameOf _ _ | .enumerate _ | .localizedName _ _ => true
  | step => !step.throughClient

inductive StepCalls (c : Client) : Step → List Exchange → Prop where
  | name {machine : Option String} {index : UInt32} {es : List Exchange}
      (plain : ∀ s ∈ machine, Text.hasNul s = false) (calls : c.NameCalls machine index es) :
      StepCalls c (.nameOf machine index) es
  | refusedName {machine : Option String} {index : UInt32}
      (nul : ∃ s ∈ machine, Text.hasNul s = true) : StepCalls c (.nameOf machine index) []
  | items {s : Client.Subject} {es : List Exchange} (plain : s.Plain) (calls : c.ItemsCalls s es) :
      StepCalls c (.enumerate s) es
  | refusedItems {s : Client.Subject} (nul : ¬ s.Plain) : StepCalls c (.enumerate s) []
  /-- An English name is asked for by the index that the table has for it. -/
  | localizedName {machine : Option String} {name : String} {index : UInt32} {es : List Exchange}
      (plain : ∀ s ∈ machine, Text.hasNul s = false) (known : index ≠ 0)
      (calls : c.NameCalls machine index es) : StepCalls c (.localizedName machine name) es
  | unknownName {machine : Option String} {name : String} :
      StepCalls c (.localizedName machine name) []
  | silent {step : Step} (h : step.asksCounters = false) : StepCalls c step []

end Session

namespace Client

variable (c : Client)

theorem nameCalls_findName (machine : Option String) (index : UInt32)
    (plain : ∀ s ∈ machine, Text.hasNul s = false) (system : System) (past : List Exchange) :
    c.NameCalls machine index
      (ofKind .counters ((c.findName machine index).run system past).exchanges) := by
  cases h : c.binding with
  | direct =>
    exact .direct h (ofKind_findName (c.asksName_direct h machine index) (fun _ _ => rfl) rfl rfl
      system past)
  | native =>
    obtain ⟨passed, lent, ends⟩ := c.encoding.optionalArgument?_of_not_hasNul plain
    exact .native h passed lent ends (ofKind_findName
      (c.asksName_native h machine index passed lent) (fun _ _ => rfl) rfl rfl system past)

theorem itemsCalls_findItems (s : Subject) (plain : s.Plain) (system : System)
    (past : List Exchange) :
    c.ItemsCalls s (ofKind .counters ((c.findItems s).run system past).exchanges) := by
  cases h : c.binding with
  | direct =>
    exact .direct h (ofKind_findItems (c.asksItems_direct h s) (fun _ _ => rfl) rfl rfl rfl
      system past)
  | native =>
    obtain ⟨source, lentSource, sourceEnds⟩ :=
      c.encoding.optionalArgument?_of_not_hasNul plain.source
    obtain ⟨machine, lentMachine, machineEnds⟩ :=
      c.encoding.optionalArgument?_of_not_hasNul plain.machine
    obtain ⟨object, lentObject, objectEnds⟩ := c.encoding.argument?_of_not_hasNul plain.object
    exact .native h source machine object lentSource lentMachine lentObject
      ⟨sourceEnds, machineEnds, objectEnds⟩
      (ofKind_findItems (c.asksItems_native h s source machine object lentSource lentMachine
        lentObject) (fun _ _ => rfl) rfl rfl rfl system past)

theorem ofKind_nameOf (machine : Option String) (index : UInt32) (system : System)
    (past : List Exchange) :
    ((∀ s ∈ machine, Text.hasNul s = false) ∧ c.NameCalls machine index
      (ofKind .counters ((c.nameOf machine index).run system past).exchanges)) ∨
    ((∃ s ∈ machine, Text.hasNul s = true) ∧
      ofKind .counters ((c.nameOf machine index).run system past).exchanges = []) := by
  have refused := error?_eq_none_iff ⟨"machine name", machine⟩
  by_cases plain : ∀ s ∈ machine, Text.hasNul s = false
  · rw [c.nameOf_of_plain plain]
    exact .inl ⟨plain, c.nameCalls_findName machine index plain system past⟩
  · cases found : Argument.error? ⟨"machine name", machine⟩ with
    | none => exact absurd (refused.mp found) plain
    | some error =>
      rw [nameOf, found]
      exact .inr ⟨by simpa using plain, rfl⟩

theorem ofKind_enumerate (s : Subject) (system : System) (past : List Exchange) :
    (s.Plain ∧ c.ItemsCalls s
      (ofKind .counters ((c.enumerate s).run system past).exchanges)) ∨
    (¬ s.Plain ∧ ofKind .counters ((c.enumerate s).run system past).exchanges = []) := by
  have refused := s.error?_eq_none_iff
  by_cases plain : s.Plain
  · rw [c.enumerate_of_plain plain]
    exact .inl ⟨plain, c.itemsCalls_findItems s plain system past⟩
  · cases found : s.error? with
    | none => exact absurd (refused.mp found) plain
    | some error =>
      rw [enumerate, found]
      exact .inr ⟨plain, rfl⟩

theorem ofKind_localizedName (table : Table.Source) (machine : Option String) (name : String)
    (system : System) (past : List Exchange) :
    Session.StepCalls c (.localizedName machine name)
      (ofKind .counters ((c.localizedName table machine name).run system past).exchanges) := by
  -- The table does not come from the counter service, so that only the name is asked for there.
  rw [localizedName, exchanges_bind, ofKind_append, (table.lookupIndex_only name).ofKind_eq_nil,
    List.nil_append]
  split
  · exact .unknownName
  · next known =>
    rw [exchanges_map]
    rcases c.ofKind_nameOf machine _ system _ with ⟨plain, calls⟩ | ⟨-, none⟩
    · exact .localizedName plain known calls
    · rw [none]
      exact .unknownName

end Client

namespace Session

theorem Step.run_only (s : Session) (step : Step) (h : step.asksCounters = false) :
    Only (·.kind ≠ .counters) (step.run s) := by
  have registry : ∀ {α : Type} {q : Query α}, Only Call.readsRegistry q →
      Only (·.kind ≠ .counters) q := fun only => only.mono fun _ => Call.readsRegistry.ne_counters
  have reading : ∀ {α : Type} {q : Query α} {v : Registry.ValueName},
      Only (Call.readsValue v) q → Only (·.kind ≠ .counters) q :=
    fun only => only.mono fun _ h => h.readsRegistry.ne_counters
  cases step with
  | nameOf | enumerate | localizedName | nativeLookup | nativeEnumerate => cases h
  | lookupIndex name => exact Only.bind (s.table.lookupIndex_only name) fun _ => Only.pure _
  | readTable => exact Only.bind s.table.read_only fun _ => Only.pure _
  | useTable | copyClient => exact Only.pure _
  | tryKey parent key =>
    exact Only.bind (registry (Registry.tryKey_only parent key)) fun _ => Only.pure _
  | closeKey key => exact Only.bind (registry (Registry.close_only key)) fun _ => Only.pure _
  | readValue value wantsType =>
    exact Only.bind (reading (Registry.readValue_only value wantsType)) fun _ => Only.pure _
  | readInto value buffer =>
    exact Only.bind (reading (Registry.readInto_only value false buffer)) fun _ => Only.pure _
  | readStrings value =>
    exact Only.bind (reading (Registry.readStrings_only value)) fun _ => Only.pure _

theorem ofKind_step (s : Session) (step : Step) (h : step.throughClient) (system : System)
    (past : List Exchange) :
    StepCalls s.client step (ofKind .counters ((step.run s).run system past).exchanges) := by
  by_cases quiet : step.asksCounters = false
  · rw [(Step.run_only s step quiet).ofKind_eq_nil]
    exact .silent quiet
  cases step with
  | nameOf machine index =>
    rw [Step.run, exchanges_map]
    rcases s.client.ofKind_nameOf machine index system past with ⟨plain, calls⟩ | ⟨nul, none⟩
    · exact .name plain calls
    · rw [none]
      exact .refusedName nul
  | enumerate subject =>
    rw [Step.run, exchanges_map]
    rcases s.client.ofKind_enumerate subject system past with ⟨plain, calls⟩ | ⟨nul, none⟩
    · exact .items plain calls
    · rw [none]
      exact .refusedItems nul
  | localizedName machine name =>
    rw [Step.run, exchanges_map]
    exact s.client.ofKind_localizedName s.table machine name system past
  | nativeLookup | nativeEnumerate => cases h
  | lookupIndex | readTable | useTable | copyClient | tryKey | closeKey | readValue | readInto
  | readStrings => exact absurd rfl quiet

theorem client_after (s : Session) (step : Step) : (s.after step).client = s.client := by
  cases step <;> rfl

theorem ofKind_runFrom (system : System) (steps : List Step)
    (h : ∀ step ∈ steps, step.throughClient) (past : List Exchange) (s : Session) :
    List.Forall₂ (StepCalls s.client) steps
      ((runFrom system past s steps).map fun shown => ofKind .counters shown.exchanges) := by
  -- Each step runs behind what the steps before it left, and none of them changes the client.
  induction steps generalizing past s with
  | nil => exact .nil
  | cons step steps ih =>
    have first := ofKind_step s step (h step List.mem_cons_self) system past
    have rest := ih (fun later hl => h later (List.mem_cons_of_mem _ hl))
      (past ++ ((step.run s).run system past).exchanges) (s.after step)
    rw [client_after] at rest
    exact .cons first rest

/-- Every step of a session makes the counter calls of one negotiation or none, with the client's
encoding, whatever the counter service, the table and everything else answer. -/
theorem run_calls_negotiated (s : Session) (system : System) (steps : List Step)
    (h : ∀ step ∈ steps, step.throughClient) :
    List.Forall₂ (StepCalls s.client) steps
      ((s.run system steps).map fun shown => ofKind .counters shown.exchanges) :=
  ofKind_runFrom system steps h [] s

theorem run_calls_negotiated_copied :
    (∀ step ∈ [Step.nameOf (some "far") 2, .copyClient, .localizedName none "System"],
      step.throughClient) ∧
    List.Forall₂ (StepCalls { platform := .plain, binding := .direct, encoding := .wide })
      [Step.nameOf (some "far") 2, .copyClient, .localizedName none "System"]
      ((run { client := { platform := .plain, binding := .direct, encoding := .wide }
              table := .listed ["2", "System"] }
          ({ replies := List.replicate 4 { name := { size := some 2, data := [65, 0, 0, 0] } } } :
            Script).system
          [Step.nameOf (some "far") 2, .copyClient, .localizedName none "System"]).map
        fun shown => ofKind .counters shown.exchanges) := by
  refine ⟨by decide, ?_⟩
  refine run_calls_negotiated
    { client := { platform := .plain, binding := .direct, encoding := .wide }
      table := .listed ["2", "System"] } _ _ ?_
  decide

end Session

end CounterCatalog
