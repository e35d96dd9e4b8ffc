import CounterCatalog.Proofs.Counter.Agreement
import CounterCatalog.Proofs.Query.Explained

set_option autoImplicit false

namespace CounterCatalog.Client

open Query

variable {c : Client} {probed : Bool}

section Failing
variable {α : Type}

theorem fail_asksOnce (windows : c.platform = .windows) (status : UInt32) (comment : String) :
    (c.fail status comment : Query (Except CallError α)).AsksOnce status := by
  rw [fail, windows]
  exact (CallError.ofCall_asksOnce status comment).map _

theorem fail_tells (windows : c.platform = .windows) (status : UInt32) (comment : String) :
    (c.fail status comment : Query (Except CallError α)).Tells := by
  rw [fail, windows]
  exact .ofCall status comment

end Failing

section Names
variable {machine : Option String} (index : UInt32)

section Plain
variable (plain : ∀ s ∈ machine, Text.hasNul s = false)
include plain

theorem calls_askName {slot : Slot} (fresh : slot.Fresh c.encoding) :
    (c.askName machine index slot).Calls probed true LookupOutcome.status
      (Status.Passes probed) := by
  refine .counters fun system past => ?_
  rw [c.run_askName index plain system past fresh]
  exact ⟨_, rfl, status?_lookupExchange _ _ _, kind_lookupExchange _ _ _⟩

variable (windows : c.platform = .windows)
include windows

theorem fetchName_explains (size : UInt32) :
    (c.fetchName machine index size).Explains true true := by
  refine (calls_askName index plain (.allocate size)).explains (fun fetch good => ?_)
    fun fetch bad => ?_
  · refine (Explains.say _ _).bind fun _ => ?_
    rw [if_pos ((Status.passes_fetch_iff _).mp good)]
    exact ((Wire.readString_only _ _ _).mono fun _ reads => .inl reads.1).explains.map _
  · refine .said ?_ _ _
    rw [if_neg (mt (Status.passes_fetch_iff _).mpr bad)]
    exact fail_asksOnce windows _ _

theorem findName_explains : (c.findName machine index).Explains false true := by
  refine (calls_askName index plain .probe).explains (fun probe good => ?_) fun probe bad => ?_
  · refine (Explains.say _ _).bind fun _ => ?_
    rw [if_pos ((Status.passes_probe_iff _).mp good)]
    split
    · exact (Explains.say _ _).map _
    · exact fetchName_explains index plain windows _
  · refine .said ?_ _ _
    rw [if_neg (mt (Status.passes_probe_iff _).mpr bad)]
    exact fail_asksOnce windows _ _

end Plain

variable (windows : c.platform = .windows)
include windows

theorem findName_tells : (c.findName machine index).Tells := by
  have fetches : ∀ size, (c.fetchName machine index size).Tells := fun size => by
    refine .bind fun fetch => .bind fun _ => ?_
    split
    · exact .bind fun _ => .ok _
    · exact fail_tells windows _ _
  refine .bind fun probe => .bind fun _ => ?_
  split
  · split
    · exact .bind fun _ => .ok _
    · exact fetches _
  · exact fail_tells windows _ _

theorem nameOf_explains (machine : Option String) (index : UInt32) :
    ∃ after, (c.nameOf machine index).Explains false after := by
  unfold nameOf
  split
  · exact ⟨false, .pure _⟩
  · next passes =>
    exact ⟨true, findName_explains index ((error?_eq_none_iff _).mp passes) windows⟩

theorem nameOf_uncalled {system : System} {past : List Exchange} {e : CallError}
    (uncalled : e.Uncalled) (failed : ((c.nameOf machine index).run system past).value = .error e) :
    ((c.nameOf machine index).run system past).exchanges = [] := by
  unfold nameOf at failed ⊢
  split at failed
  · rfl
  · exact absurd uncalled.message (findName_tells index windows system past e failed)

omit windows in
theorem nameOf_refused {text : String} (passed : machine = some text)
    (nul : '\x00' ∈ text.toList) (system : System) (past : List Exchange) :
    ((c.nameOf machine index).run system past).Refused := by
  have refused : Argument.error? ⟨"machine name", machine⟩ ≠ none := fun plain =>
    Text.not_mem_of_not_hasNul ((error?_eq_none_iff _).mp plain text passed) nul
  obtain ⟨e, found⟩ := Option.ne_none_iff_exists'.mp refused
  rw [nameOf, found]
  exact ⟨e, Argument.uncalled_of_error? found, rfl, rfl⟩

end Names

section Items
variable {s : Subject}

section Plain
variable (plain : s.Plain)
include plain

theorem calls_askItems {counters instances : Slot} (freshCounters : counters.Fresh c.encoding)
    (freshInstances : instances.Fresh c.encoding) :
    (c.askItems s counters instances).Calls probed true EnumerationOutcome.status
      (Status.Passes probed) := by
  refine .counters fun system past => ?_
  rw [c.run_askItems plain system past freshCounters freshInstances]
  exact ⟨_, rfl, status?_enumerateExchange _ _ _, kind_enumerateExchange _ _ _⟩

variable (windows : c.platform = .windows)
include windows

theorem fetchItems_explains (counters instances : UInt32) :
    (c.fetchItems s counters instances).Explains true true := by
  have read : ∀ bytes, (Wire.readList c.platform c.encoding bytes).Explains true true :=
    fun bytes => ((Wire.readList_only _ _ bytes).mono fun _ reads => .inl reads.1).explains
  refine (calls_askItems plain (Slot.fresh_listSlot _ _) (Slot.fresh_listSlot _ _)).explains
    (fun fetch good => ?_) fun fetch bad => ?_
  · refine (Explains.say _ _).bind fun _ => ?_
    rw [if_pos ((Status.passes_fetch_iff _).mp good)]
    exact (read _).bind fun _ => (read _).map _
  · refine .said ?_ _ _
    rw [if_neg (mt (Status.passes_fetch_iff _).mpr bad)]
    exact fail_asksOnce windows _ _

theorem findItems_explains : (c.findItems s).Explains false true := by
  refine (calls_askItems plain .probe .probe).explains (fun probe good => ?_) fun probe bad => ?_
  · refine (Explains.say _ _).bind fun _ => ?_
    rw [if_pos ((Status.passes_probe_iff _).mp good)]
    split
    · exact (Explains.say _ _).bind fun _ => fetchItems_explains plain windows _ _
    · exact fetchItems_explains plain windows _ _
  · refine .said ?_ _ _
    rw [if_neg (mt (Status.passes_probe_iff _).mpr bad)]
    exact fail_asksOnce windows _ _

end Plain

variable (windows : c.platform = .windows)
include windows

theorem findItems_tells : (c.findItems s).Tells := by
  have fetches : ∀ counters instances, (c.fetchItems s counters instances).Tells :=
    fun counters instances => by
      refine .bind fun fetch => .bind fun _ => ?_
      split
      · exact .bind fun _ => .bind fun _ => .ok _
      · exact fail_tells windows _ _
  refine .bind fun probe => .bind fun _ => ?_
  split
  · split
    · exact .bind fun _ => fetches _ _
    · exact fetches _ _
  · exact fail_tells windows _ _

theorem enumerate_explains (s : Subject) :
    ∃ after, (c.enumerate s).Explains false after := by
  unfold enumerate
  split
  · exact ⟨false, .pure _⟩
  · next passes =>
    exact ⟨true, findItems_explains (s.error?_eq_none_iff.mp passes) windows⟩

theorem enumerate_uncalled {system : System} {past : List Exchange} {e : CallError}
    (uncalled : e.Uncalled) (failed : ((c.enumerate s).run system past).value = .error e) :
    ((c.enumerate s).run system past).exchanges = [] := by
  unfold enumerate at failed ⊢
  split at failed
  · rfl
  · exact absurd uncalled.message (findItems_tells windows system past e failed)

omit windows in
theorem enumerate_refused {text : String}
    (passed : s.source = some text ∨ s.machine = some text ∨ s.object = text)
    (nul : '\x00' ∈ text.toList) (system : System) (past : List Exchange) :
    ((c.enumerate s).run system past).Refused := by
  have refused : s.error? ≠ none := fun plain => by
    obtain ⟨source, machine, object⟩ := s.error?_eq_none_iff.mp plain
    rcases passed with own | own | rfl
    · exact Text.not_mem_of_not_hasNul (source text own) nul
    · exact Text.not_mem_of_not_hasNul (machine text own) nul
    · exact Text.not_mem_of_not_hasNul object nul
  obtain ⟨e, found⟩ := Option.ne_none_iff_exists'.mp refused
  obtain ⟨argument, -, own⟩ := List.exists_of_findSome?_eq_some found
  rw [enumerate, found]
  exact ⟨e, Argument.uncalled_of_error? own, rfl, rfl⟩

end Items

end CounterCatalog.Client
