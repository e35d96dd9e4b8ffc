import CounterCatalog.Proofs.Counter.Mirror
import CounterCatalog.Proofs.Session.TwoCalls

set_option autoImplicit false

namespace CounterCatalog

open Query

namespace Script

variable (s : Script)

theorem takesReply_mirrored {native direct : Exchange} (h : native.Mirrors direct) :
    takesCounterReply native.call = takesCounterReply direct.call ∧
      takesValueReply native.call = takesValueReply direct.call := by
  cases h <;> exact ⟨rfl, rfl⟩

theorem count_mirrored {past other : List Exchange}
    (related : List.Forall₂ Exchange.Mirrors past other) :
    count takesCounterReply past = count takesCounterReply other ∧
      count takesValueReply past = count takesValueReply other := by
  induction related with
  | nil => exact ⟨rfl, rfl⟩
  | cons here _ ih =>
    obtain ⟨counter, value⟩ := takesReply_mirrored here
    obtain ⟨counters, values⟩ := ih
    simp only [count, List.countP_cons] at counters values ⊢
    rw [counter, value, counters, values]
    exact ⟨rfl, rfl⟩

/-- A native function stops where the room ends, and a slot cuts what goes beyond it. -/
theorem receive_cut {e : Encoding} {slot : Slot} (fresh : slot.Fresh e) (w : Written) :
    slot.receive (cut e slot w) = slot.receive w := by
  cases fresh with
  | probe => rfl
  | allocate units =>
    have same : ∀ length : Nat, (Buffer.zeroed length).write (w.data.take length) =
        (Buffer.zeroed length).write w.data := by
      intro length
      simp only [Buffer.write, Buffer.length_zeroed, List.take_take, Nat.min_self]
    change Slot.mk (some ((Buffer.zeroed (e.byteLength units)).write
      (w.data.take (e.byteLength units)))) _ = _
    rw [same]
    rfl

theorem mirrors : s.system.Mirrors s.system where
  lookup past other related r fresh := by
    have reply : s.counterReply past = s.counterReply other := by
      rw [counterReply, counterReply, (count_mirrored related).1]
    constructor
    · exact congrArg CounterReply.status reply
    · change r.name.receive (cut r.encoding r.name (s.counterReply past).name) = _
      rw [receive_cut fresh, reply]
      rfl
  enumerate past other related r freshCounters freshInstances := by
    have reply : s.counterReply past = s.counterReply other := by
      rw [counterReply, counterReply, (count_mirrored related).1]
    constructor
    · exact congrArg CounterReply.status reply
    · change r.counters.receive (cut r.encoding r.counters (s.counterReply past).counters) = _
      rw [receive_cut freshCounters, reply]
      rfl
    · change r.instances.receive (cut r.encoding r.instances (s.counterReply past).instances) = _
      rw [receive_cut freshInstances, reply]
      rfl
  same past other related call kind := by
    cases call with
    | lookup | enumerate | nativeLookup | nativeEnumerate => exact absurd rfl kind
    | queryValue request =>
      have reply : s.valueReply past = s.valueReply other := by
        rw [valueReply, valueReply, (count_mirrored related).2]
      exact congrArg (ValueReply.answer request) reply
    | formatMessage => simp only [system, related.length_eq]
    | readTable | findModule | lastError | freeMessage | measureAnsi | convertAnsi | openKey
    | closeKey => rfl

end Script

namespace Session

section Steps
variable {system service : System} (mirror : system.Mirrors service) (e : Encoding)
include mirror

theorem mirrors_step (table : Table.Source) (step : Step) (h : step.throughClient) :
    Query.Mirrors system service (step.run { client := .native e, table })
      (step.run { client := .direct e, table }) := by
  by_cases quiet : step.asksCounters = false
  · have same : step.run { client := .native e, table } =
        step.run { client := .direct e, table } := by
      cases step with
      | nameOf | enumerate | localizedName | nativeLookup | nativeEnumerate => cases quiet
      | _ => rfl
    rw [← same]
    exact (Step.run_only _ step quiet).mirrors mirror
  cases step with
  | nameOf machine index =>
    exact .bind (Client.mirrors_nameOf mirror e machine index) fun _ => .pure _
  | enumerate subject => exact .bind (Client.mirrors_enumerate mirror e subject) fun _ => .pure _
  | localizedName machine name =>
    exact .bind (Client.mirrors_localizedName mirror e table machine name) fun _ => .pure _
  | nativeLookup | nativeEnumerate => cases h
  | lookupIndex | readTable | useTable | copyClient | tryKey | closeKey | readValue | readInto
  | readStrings => exact absurd rfl quiet

theorem mirrors_runFrom (steps : List Step) (h : ∀ step ∈ steps, step.throughClient)
    (table : Table.Source) (past other : List Exchange)
    (related : List.Forall₂ Exchange.Mirrors past other) :
    List.Forall₂ Observed.Mirrors
      (runFrom system past { client := .native e, table } steps)
      (runFrom service other { client := .direct e, table } steps) := by
  -- The histories stay mirrored, since every step adds mirrored exchanges to them.
  induction steps generalizing table past other with
  | nil => exact .nil
  | cons step steps ih =>
    have shown := mirrors_step mirror e table step (h step List.mem_cons_self) past other related
    have next : ∀ client : Client, ({ client, table } : Session).after step =
        { client, table := (({ client := .native e, table } : Session).after step).table } := by
      intro client
      cases step <;> rfl
    rw [runFrom, runFrom, next, next (.direct e)]
    exact .cons shown (ih (fun later hl => h later (List.mem_cons_of_mem _ hl)) _ _ _
      (List.rel_append related shown.exchanges))

end Steps

/-- Over systems that mirror each other, a native session gives what it gives directly, by calls
that are natively the same. -/
theorem native_refines_direct (e : Encoding) (table : Table.Source) (steps : List Step)
    (h : ∀ step ∈ steps, step.throughClient) :
    let native : Session := { client := .native e, table }
    let direct : Session := { client := .direct e, table }
    (∀ script : Script, List.Forall₂ Observed.Mirrors (native.run script.system steps)
      (direct.run script.system steps)) ∧
    ∀ system service : System, system.Mirrors service →
      List.Forall₂ Observed.Mirrors (native.run system steps) (direct.run service steps) := by
  have refines : ∀ system service : System, system.Mirrors service →
      List.Forall₂ Observed.Mirrors
        (run { client := .native e, table } system steps)
        (run { client := .direct e, table } service steps) :=
    fun system service mirror => mirrors_runFrom mirror e steps h table [] [] .nil
  exact ⟨fun script => refines _ _ script.mirrors, refines⟩

def overlong : Script where
  replies :=
    [{ status := Status.moreData, name := { size := some 2 } },
      { name := { size := some 9, data := [0x53, 0, 0x79, 0, 0x73] } }]

theorem native_refines_direct_overlong :
    (∀ step ∈ [Step.localizedName (some "far") "System", .readTable], step.throughClient) ∧
    List.Forall₂ Observed.Mirrors
      (run { client := .native .wide, table := .listed ["2", "System"] } overlong.system
        [.localizedName (some "far") "System", .readTable])
      (run { client := .direct .wide, table := .listed ["2", "System"] } overlong.system
        [.localizedName (some "far") "System", .readTable]) :=
  ⟨by decide, (native_refines_direct .wide (.listed ["2", "System"])
    [.localizedName (some "far") "System", .readTable] (by decide)).1 overlong⟩

end Session

end CounterCatalog
