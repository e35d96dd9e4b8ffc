import CounterCatalog.Proofs.CallError.Alike
import CounterCatalog.Proofs.CallError.Asking
import CounterCatalog.Proofs.Counter.Negotiation

set_option autoImplicit false

/-!
# Runs that explain their failures

`Explained` says of the calls of a run that each one that failed is followed at once by the calls
that ask for the message of its status, and that no other message is asked for. So what is asked for
is read off the calls themselves, whether an error is handed out, logged or dropped. `Explains` says
it of all runs of a query, and is proved along the way a query is put together.
-/
namespace CounterCatalog

open Query

/-- A probe, the first call of a question, has only to announce sizes; the fetch has to succeed. -/
def Status.Passes (probed : Bool) (status : UInt32) : Prop :=
  match probed with
  | true => status = 0
  | false => status = 0 ∨ status = 0x800007D2

theorem Status.passes_fetch_iff (status : UInt32) :
    Passes true status ↔ status = Status.success := Iff.rfl

theorem Status.passes_probe_iff (status : UInt32) :
    Passes false status ↔ Status.announcesSize status = true :=
  (Status.announcesSize_iff status).symm

/-- The status is no failure of the call. A read into a buffer may be told that there is more. -/
def Call.Accepts (probed : Bool) (status : UInt32) : Call → Prop
  | .lookup _ | .enumerate _ | .nativeLookup _ | .nativeEnumerate _ _ => Status.Passes probed status
  | .queryValue r => status = 0 ∨ r.data.buffer ≠ none ∧ status = 234
  | _ => status = 0

/-- Each failed call is asked about once, at once, and nothing else is asked about. The flags say
whether the counter service has been probed before these exchanges and after them. -/
inductive Explained : Bool → List Exchange → Bool → Prop where
  | nil (probed : Bool) : Explained probed [] probed
  | settled {before after : Bool} {e : Exchange} {rest : List Exchange}
      (own : e.call.kind ≠ .messages)
      (accepted : ∀ status ∈ e.status?, e.call.Accepts before status)
      (later : Explained (before || e.call.kind = .counters) rest after) :
      Explained before (e :: rest) after
  | failed {before after : Bool} {e : Exchange} {status : UInt32} {asked rest : List Exchange}
      (own : e.status? = some status) (refused : ¬ e.call.Accepts before status)
      (asks : AsksMessage status asked)
      (later : Explained (before || e.call.kind = .counters) rest after) :
      Explained before (e :: (asked ++ rest)) after

theorem Explained.append {before between after : Bool} {es fs : List Exchange}
    (h : Explained before es between) (later : Explained between fs after) :
    Explained before (es ++ fs) after := by
  induction h with
  | nil => exact later
  | settled own accepted _ ih => exact .settled own accepted (ih later)
  | failed own refused asks _ ih =>
    rw [List.cons_append, List.append_assoc]
    exact .failed own refused asks (ih later)

theorem AsksMessage.ofKind_eq {status : UInt32} {es : List Exchange} (h : AsksMessage status es) :
    ofKind .messages es = es := by
  cases h <;> rfl

theorem Call.accepts_of_counters {call : Call} (kind : call.kind = .counters) (probed : Bool)
    (status : UInt32) : call.Accepts probed status ↔ Status.Passes probed status := by
  cases call with
  | lookup | enumerate | nativeLookup | nativeEnumerate => exact Iff.rfl
  | _ => cases kind

namespace Query

variable {α β : Type} {before between after probed : Bool}

def Explains (before after : Bool) (q : Query α) : Prop :=
  ∀ system past, Explained before (q.run system past).exchanges after

theorem Explains.pure (value : α) : (Pure.pure value : Query α).Explains probed probed :=
  fun _ _ => .nil probed

theorem Explains.say (level : Level) (text : String) :
    (Query.say level text).Explains probed probed := fun _ _ => .nil probed

theorem Explains.bind {q : Query α} {next : α → Query β} (first : q.Explains before between)
    (rest : ∀ value, (next value).Explains between after) :
    (q >>= next).Explains before after := by
  intro system past
  rw [exchanges_bind]
  exact (first system past).append (rest _ system _)

theorem Explains.map {q : Query α} (h : q.Explains before after) (f : α → β) :
    (q >>= fun value => Pure.pure (f value)).Explains before after :=
  h.bind fun value => .pure (f value)

theorem Only.explains {q : Query α}
    (h : Only (fun call => call.kind = .text ∨ call.kind = .table) q) :
    q.Explains probed probed := by
  induction h with
  | pure value => exact .pure value
  | say level text => exact .say level text
  | @ask call kind =>
    intro system past
    rw [run_ask]
    refine .settled ?_ ?_ ?_
    · dsimp only
      rcases kind with kind | kind <;> rw [kind] <;> decide
    · cases call <;> simp [Call.kind] at kind <;> exact nofun
    · have other : (probed || decide (call.kind = .counters)) = probed := by
        rcases kind with kind | kind <;> simp [kind]
      dsimp only
      rw [other]
      exact .nil probed
  | bind _ _ first rest => exact first.bind rest

/-- The query is one call that is answered with the status of the value. -/
def Calls (before after : Bool) (status : α → UInt32) (accepted : UInt32 → Prop) (q : Query α) :
    Prop :=
  ∀ system past, ∃ e : Exchange, (q.run system past).exchanges = [e] ∧
    e.status? = some (status (q.run system past).value) ∧ e.call.kind ≠ .messages ∧
    (∀ code, e.call.Accepts before code ↔ accepted code) ∧
    (before || e.call.kind = .counters) = after

theorem Calls.ask {call : Call} {status : call.Reply → UInt32} {accepted : UInt32 → Prop}
    (own : ∀ reply, Exchange.status? ⟨call, reply⟩ = some (status reply))
    (registry : call.kind = .registry)
    (accepts : ∀ code, call.Accepts probed code ↔ accepted code) :
    (Query.ask call).Calls probed probed status accepted := by
  intro system past
  refine ⟨⟨call, system past call⟩, rfl, own _, ?_, accepts, ?_⟩
  · rw [registry]
    decide
  · rw [registry]
    exact Bool.or_false probed

theorem Calls.counters {status : α → UInt32} {q : Query α}
    (made : ∀ system past, ∃ e : Exchange, (q.run system past).exchanges = [e] ∧
      e.status? = some (status (q.run system past).value) ∧ e.call.kind = .counters) :
    q.Calls probed true status (Status.Passes probed) := by
  intro system past
  obtain ⟨e, calls, own, kind⟩ := made system past
  refine ⟨e, calls, own, ?_, Call.accepts_of_counters kind probed, ?_⟩
  · rw [kind]
    decide
  · rw [kind]
    exact Bool.or_true probed

theorem Calls.explains {status : α → UInt32} {accepted : UInt32 → Prop} {q : Query α}
    {next : α → Query β} (h : q.Calls before after status accepted)
    (good : ∀ value, accepted (status value) → (next value).Explains after after)
    (bad : ∀ value, ¬ accepted (status value) → (next value).AsksOnce (status value)) :
    (q >>= next).Explains before after := by
  intro system past
  obtain ⟨e, calls, own, kind, accepts, flag⟩ := h system past
  rw [exchanges_bind, calls, List.singleton_append]
  by_cases accepted : accepted (status (q.run system past).value)
  · refine .settled kind (fun code answered => ?_) ?_
    · cases own.symm.trans answered
      exact (accepts _).mpr accepted
    · rw [flag]
      exact good _ accepted system _
  · have asked := bad _ accepted system (past ++ [e])
    rw [← List.append_nil (Observed.exchanges _)]
    refine .failed own (mt (accepts _).mp accepted) asked ?_
    rw [flag]
    exact .nil after

end Query

def Query.Tells {α : Type} (q : Query (Except CallError α)) : Prop :=
  ∀ system past e, (q.run system past).value = .error e → e.message ≠ none

section Tells
variable {α β : Type}

theorem Query.Tells.ok (value : α) : (pure (.ok value) : Query (Except CallError α)).Tells := nofun

theorem Query.Tells.ofCall (status : UInt32) (comment : String) :
    (do return .error (← CallError.ofCall .windows status comment) :
      Query (Except CallError α)).Tells := by
  intro system past e failed
  rw [value_map] at failed
  cases failed
  exact CallError.message_ofCall status comment system past

theorem Query.Tells.bind {q : Query α} {next : α → Query (Except CallError β)}
    (rest : ∀ value, (next value).Tells) : (q >>= next).Tells := by
  intro system past e failed
  rw [value_bind] at failed
  exact rest _ system _ e failed

end Tells

/-- The errors that are made of what the library finds by itself: a string with a NUL, a value that
is too large for the limit, and one of the wrong type. -/
inductive CallError.Uncalled : CallError → Prop where
  | argument (role text : String) :
      Uncalled (.root {
        status := 0xC0000BBD
        comment := some (role ++ " contains NUL character: " ++ Text.quoted text) })
  | string (what text : String) :
      Uncalled (.root {
        status := 87, comment := some (what ++ " contains NUL character: " ++ Text.quoted text) })
  | limit (size : Nat) :
      Uncalled (.root {
        status := 234
        comment := some
          ("RegQueryValueExW reached buffer limit: " ++ Text.Numeral.decimal size ++ " bytes") })
  | type (type : UInt32) :
      Uncalled (.root {
        status := 13
        comment := some ("Unexpected data type in registry. Expected MULTI_SZ, got: "
          ++ Text.Numeral.typeCode type) })

theorem CallError.Uncalled.message {e : CallError} (h : e.Uncalled) : e.message = none := by
  cases h <;> rfl

theorem Argument.uncalled_of_error? {a : Argument} {e : CallError} (found : a.error? = some e) :
    e.Uncalled := by
  unfold error? at found
  split at found
  · split at found
    · cases found
      exact .argument _ _
    · cases found
  · cases found

/-- The question is not put: it fails with an error of no call, and there is none. -/
def Observed.Refused {α : Type} (shown : Observed (Except CallError α)) : Prop :=
  ∃ e : CallError, e.Uncalled ∧ shown.value = .error e ∧ shown.exchanges = []

end CounterCatalog
