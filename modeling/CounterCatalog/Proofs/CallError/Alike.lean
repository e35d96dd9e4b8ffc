import CounterCatalog.Proofs.CallError.Status
import CounterCatalog.Proofs.Query.Agreement

set_option autoImplicit false

namespace CounterCatalog

open Query

/-- The status that a call to the counter service or to the registry was answered with. -/
def Exchange.status? : Exchange → Option UInt32
  | ⟨.lookup _, reply⟩ | ⟨.nativeLookup _, reply⟩ => some reply.status
  | ⟨.enumerate _, reply⟩ | ⟨.nativeEnumerate _ _, reply⟩ => some reply.status
  | ⟨.openKey _ _ _, reply⟩ => some reply.status
  | ⟨.closeKey _, status⟩ => some status
  | ⟨.queryValue _, reply⟩ => some reply.status
  | _ => none

inductive CallError.Alike (es : List Exchange) : CallError → CallError → Prop where
  /-- No call failed, and no message was asked for. -/
  | same {e : CallError} (unexplained : e.message = none) : Alike es e e
  | called {e f : CallError} {x : Exchange} (member : x ∈ es) (own : x.status? = some e.status)
      (status : e.status = f.status) (comment : e.comment = f.comment) : Alike es e f

inductive ResultsAlike {α β : Type} (R : α → β → Prop) (es : List Exchange) :
    Except CallError α → Except CallError β → Prop where
  | ok {value : α} {other : β} (h : R value other) : ResultsAlike R es (.ok value) (.ok other)
  | error {e f : CallError} (h : e.Alike es f) : ResultsAlike R es (.error e) (.error f)

namespace CallError

variable {es fs : List Exchange} {e f : CallError}

theorem Alike.mono (h : e.Alike es f) (le : ∀ x ∈ es, x ∈ fs) : e.Alike fs f := by
  cases h with
  | same unexplained => exact .same unexplained
  | called member own status comment => exact .called (le _ member) own status comment

end CallError

theorem ResultsAlike.mono {α β : Type} {R S : α → β → Prop} {es fs : List Exchange}
    {result : Except CallError α} {other : Except CallError β} (h : ResultsAlike R es result other)
    (values : ∀ value other, R value other → S value other) (le : ∀ x ∈ es, x ∈ fs) :
    ResultsAlike S fs result other := by
  cases h with
  | ok h => exact .ok (values _ _ h)
  | error h => exact .error (h.mono le)

def View.HidesMessages (v : View) : Prop :=
  ∀ call : Call, call.kind = .messages → v.call call = false

theorem CallError.agree_ofCall {v : View} (hides : v.HidesMessages) (first second : System)
    (p q : Platform) (status : UInt32) (comment : String) :
    Agree v first second
      (fun es e f => es = [] ∧ e.status = status ∧ f.status = status ∧ e.comment = f.comment)
      (ofCall p status comment) (ofCall q status comment) := by
  refine Agree.hidden ((ofCall_only status comment).mono hides)
    ((ofCall_only status comment).mono hides) (fun past => ?_) (fun past => ?_)
    fun past other => ?_
  · rw [ofCall_silent, View.log_nil]
  · rw [ofCall_silent, View.log_nil]
  · simp only [status_ofCall, comment_ofCall, and_self]

theorem CallError.agree_called {v : View} (hides : v.HidesMessages) {first second : System}
    (p q : Platform) {es : List Exchange} {x : Exchange} {status : UInt32} (member : x ∈ es)
    (own : x.status? = some status) (comment : String) :
    Agree v first second (fun fs e f => e.Alike (es ++ fs) f)
      (ofCall p status comment) (ofCall q status comment) := by
  refine (agree_ofCall hides first second p q status comment).mono fun fs e f alike => ?_
  obtain ⟨-, here, there, comments⟩ := alike
  exact .called (List.mem_append_left _ member) (by rw [own, here]) (here.trans there.symm) comments

theorem CallError.agree_failed {α β : Type} {v : View} (hides : v.HidesMessages)
    {first second : System} (p q : Platform) (R : List Exchange → α → β → Prop)
    {es : List Exchange} {x : Exchange} {status : UInt32} (member : x ∈ es)
    (own : x.status? = some status) (comment : String) :
    Agree v first second (fun fs => ResultsAlike (R fs) (es ++ fs))
      (do return .error (← ofCall p status comment) : Query (Except CallError α))
      (do return .error (← ofCall q status comment) : Query (Except CallError β)) :=
  (agree_called hides p q member own comment).map fun _ _ _ alike => .error alike

end CounterCatalog
