import CounterCatalog.Proofs.Table.Agreement
import CounterCatalog.Session
import CounterCatalog.System.Script
import Mathlib.Data.List.Forall2

set_option autoImplicit false

namespace CounterCatalog

open Query

namespace Session

/-- The same outcome but for the texts that were read, whose relations are given, and for what is
said of an error. -/
inductive Outcome.Alike (N : String → String → Prop) (I : Inventory → Inventory → Prop)
    (es : List Exchange) : Outcome → Outcome → Prop where
  | name {result other : Except CallError String} (h : ResultsAlike N es result other) :
      Alike N I es (.name result) (.name other)
  | items {result other : Except CallError Inventory} (h : ResultsAlike I es result other) :
      Alike N I es (.items result) (.items other)
  | index (index : UInt32) : Alike N I es (.index index) (.index index)
  | localizedName {result other : Except CallError (Option String)}
      (h : ResultsAlike (Option.Rel N) es result other) :
      Alike N I es (.localizedName result) (.localizedName other)
  | table {result other : Except CallError (List String)} (h : ResultsAlike Eq es result other) :
      Alike N I es (.table result) (.table other)
  | tableChanged : Alike N I es .tableChanged .tableChanged
  | copied (encoding : Encoding) : Alike N I es (.copied encoding) (.copied encoding)
  | opened {result other : Except CallError Int} (h : ResultsAlike Eq es result other) :
      Alike N I es (.opened result) (.opened other)
  | closed {result other : Except CallError Unit} (h : ResultsAlike Eq es result other) :
      Alike N I es (.closed result) (.closed other)
  | value {result other : Except CallError (Buffer × UInt32)}
      (h : ResultsAlike Eq es result other) : Alike N I es (.value result) (.value other)
  | filled {result other : Except CallError Unit} (h : ResultsAlike Eq es result other)
      (buffer : Buffer) : Alike N I es (.filled result buffer) (.filled other buffer)
  | strings {result other : Except CallError (List String)} (h : ResultsAlike Eq es result other) :
      Alike N I es (.strings result) (.strings other)
  | nativeName (outcome : LookupOutcome) :
      Alike N I es (.nativeName outcome) (.nativeName outcome)
  | nativeItems (outcome : EnumerationOutcome) :
      Alike N I es (.nativeItems outcome) (.nativeItems outcome)

theorem Outcome.Alike.mono {N M : String → String → Prop} {I J : Inventory → Inventory → Prop}
    {es : List Exchange} {outcome other : Outcome} (h : outcome.Alike N I es other)
    (names : ∀ name other, N name other → M name other)
    (items : ∀ items other, I items other → J items other) : outcome.Alike M J es other := by
  have same : ∀ x ∈ es, x ∈ es := fun _ => id
  cases h with
  | name h => exact .name (h.mono names same)
  | items h => exact .items (h.mono items same)
  | localizedName h =>
    refine .localizedName (h.mono (fun value other related => ?_) same)
    cases related with
    | none => exact .none
    | some related => exact .some (names _ _ related)
  | index => exact .index _
  | table h => exact .table h
  | tableChanged => exact .tableChanged
  | copied => exact .copied _
  | opened h => exact .opened h
  | closed h => exact .closed h
  | value h => exact .value h
  | filled h => exact .filled h _
  | strings h => exact .strings h
  | nativeName => exact .nativeName _
  | nativeItems => exact .nativeItems _

def Step.usesRegistry : Step → Bool
  | .tryKey _ _ | .closeKey _ | .readValue _ _ | .readInto _ _ | .readStrings _ => true
  | .useTable table => table = .registry
  | _ => false

theorem uses_of_table_after {s : Session} {step : Step} {steps : List Step}
    (h : (s.after step).table = .registry) :
    s.table = .registry ∨ ∃ later ∈ step :: steps, later.usesRegistry = true := by
  cases step with
  | useTable table => exact .inr ⟨_, List.mem_cons_self, decide_eq_true h⟩
  | _ => exact .inl h

def on (s : Session) (q : Platform) : Session := { s with client := s.client.on q }

end Session

structure View.OfSessions (v : View) : Prop where
  counters : ∀ call : Call, call.kind = .counters → v.call call = true
  table : ∀ call : Call, call.kind = .table → v.call call = true
  hides : v.HidesMessages
  warnings : ∀ text other, v.line ⟨.warn, text⟩ = v.line ⟨.warn, other⟩

def View.SeesRegistry (v : View) : Prop :=
  ∀ call : Call, call.kind = .registry → v.call call = true

namespace Session

section Agreement
variable {v : View} {first second : System} (view : v.OfSessions)
  (agree : System.Agree v first second) {T : TextRelation} {q : Platform}
include view agree

theorem agree_step (s : Session)
    (read : T.Read v first second s.client.platform q s.client.encoding) (step : Step)
    (registry : s.table = .registry ∨ step.usesRegistry = true → v.SeesRegistry) :
    Agree v first second (fun es outcome => outcome.Alike (NameAlike T es) (ItemsAlike T es) es)
      (step.run s) (step.run (s.on q)) := by
  have counters : v.OfCounters := ⟨view.counters, view.hides⟩
  have table : v.OfTable s.table :=
    ⟨view.table, fun own => registry (.inl own), view.hides, view.warnings⟩
  have values : step.usesRegistry = true → v.OfRegistry :=
    fun own => ⟨registry (.inr own), view.hides, view.warnings⟩
  cases step with
  | nameOf machine index =>
    exact (Client.agree_nameOf counters agree s.client q read machine index).map
      fun _ _ _ alike => .name alike
  | enumerate subject =>
    exact (Client.agree_enumerate counters agree s.client q read subject).map
      fun _ _ _ alike => .items alike
  | lookupIndex name =>
    refine (Table.Source.agree_lookupIndex table agree s.client.platform q name).map ?_
    rintro _ index _ rfl
    exact .index index
  | localizedName machine name =>
    exact (Client.agree_localizedName table agree q counters s.client read machine name).map
      fun _ _ _ alike => .localizedName alike
  | readTable =>
    exact (Table.Source.agree_read table agree s.client.platform q).map
      fun _ _ _ alike => .table alike
  | useTable => exact .pure .tableChanged
  | copyClient => exact .pure (.copied _)
  | tryKey parent key =>
    exact (Registry.agree_tryKey (values rfl) agree s.client.platform q parent key).map
      fun _ _ _ alike => .opened alike
  | closeKey key =>
    exact (Registry.agree_close (values rfl) agree s.client.platform q key).map
      fun _ _ _ alike => .closed alike
  | readValue value wantsType =>
    exact (Registry.agree_readValue (values rfl) agree s.client.platform q value wantsType).map
      fun _ _ _ alike => .value alike
  | readInto value buffer =>
    have read := Registry.agree_readInto (values rfl) agree s.client.platform q value false buffer
    refine read.map ?_
    rintro _ ⟨result, filled, _⟩ ⟨other, _, _⟩ ⟨alike, rfl, -⟩
    exact .filled alike _
  | readStrings value =>
    exact (Registry.agree_readStrings (values rfl) agree s.client.platform q value).map
      fun _ _ _ alike => .strings alike
  | nativeLookup request =>
    refine (((Binding.native.lookup_counters request).mono view.counters).agree agree).map ?_
    rintro _ outcome _ rfl
    exact .nativeName outcome
  | nativeEnumerate request =>
    refine (((Binding.native.enumerate_counters request).mono view.counters).agree agree).map ?_
    rintro _ outcome _ rfl
    exact .nativeItems outcome

theorem agree_runFrom (s : Session)
    (read : T.Read v first second s.client.platform q s.client.encoding) (steps : List Step)
    (registry : (s.table = .registry ∨ ∃ step ∈ steps, step.usesRegistry = true) →
      v.SeesRegistry) (past other : List Exchange) (alike : v.exchanges past = v.exchanges other) :
    List.Forall₂
      (Observed.Agree v fun es outcome => outcome.Alike (NameAlike T es) (ItemsAlike T es) es)
      (runFrom first past s steps) (runFrom second other (s.on q) steps) := by
  -- The histories go on to look alike, since every step adds the same to what is seen of them.
  induction steps generalizing s past other with
  | nil => exact .nil
  | cons step steps ih =>
    have here : s.table = .registry ∨ step.usesRegistry = true → v.SeesRegistry := by
      rintro (own | uses)
      · exact registry (.inl own)
      · exact registry (.inr ⟨step, List.mem_cons_self, uses⟩)
    have shown := agree_step view agree s read step here past other alike
    have next : (s.on q).after step = (s.after step).on q := by cases step <;> rfl
    have client : (s.after step).client = s.client := by cases step <;> rfl
    rw [runFrom, runFrom, next]
    refine .cons shown (ih (s.after step) (by rw [client]; exact read) ?_ _ _ ?_)
    · rintro (own | ⟨later, member, uses⟩)
      · exact registry (uses_of_table_after own)
      · exact registry (.inr ⟨later, List.mem_cons_of_mem _ member, uses⟩)
    · rw [View.exchanges_append, View.exchanges_append, alike, shown.exchanges]

end Agreement

end Session

namespace Script

variable {v : View}

theorem count_exchanges {kind : Call → Bool} (seen : ∀ call, kind call = true → v.call call = true)
    (past : List Exchange) : count kind (v.exchanges past) = count kind past := by
  rw [count, count, View.exchanges, List.countP_filter]
  refine List.countP_congr fun e _ => ?_
  constructor
  · intro both
    exact (Bool.and_eq_true_iff.mp both).1
  · intro own
    exact Bool.and_eq_true_iff.mpr ⟨own, seen _ own⟩

theorem counterReply_congr {s t : Script} (replies : s.replies = t.replies)
    (counters : ∀ call : Call, call.kind = .counters → v.call call = true)
    {past other : List Exchange} (alike : v.exchanges past = v.exchanges other) :
    s.counterReply past = t.counterReply other := by
  have seen : ∀ call, takesCounterReply call = true → v.call call = true := by
    intro call takes
    refine counters call ?_
    cases call with
    | lookup | enumerate | nativeLookup | nativeEnumerate => rfl
    | _ => cases takes
  rw [counterReply, counterReply, replies, ← count_exchanges seen past, alike,
    count_exchanges seen other]

theorem valueReply_congr {s t : Script} (values : s.values = t.values)
    (registry : v.SeesRegistry) {past other : List Exchange}
    (alike : v.exchanges past = v.exchanges other) : s.valueReply past = t.valueReply other := by
  have seen : ∀ call, takesValueReply call = true → v.call call = true := by
    intro call takes
    refine registry call ?_
    cases call with
    | queryValue => rfl
    | _ => cases takes
  rw [valueReply, valueReply, values, ← count_exchanges seen past, alike,
    count_exchanges seen other]

end Script

end CounterCatalog
