import CounterCatalog.CallError.Draft
import CounterCatalog.Proofs.CallError.Status
import CounterCatalog.System.Script
import Mathlib.Data.List.Basic

set_option autoImplicit false

namespace CounterCatalog.CallError

open Query

inductive Along (P : List CallError → DraftStep → Observed DraftResult → Prop) :
    List CallError → List DraftStep → List (Observed DraftResult) → Prop where
  | nil (drafts : List CallError) : Along P drafts [] []
  | cons {drafts : List CallError} {step : DraftStep} {steps : List DraftStep}
      {shown : Observed DraftResult} {rest : List (Observed DraftResult)}
      (here : P drafts step shown) (later : Along P (shown.value.extend drafts) steps rest) :
      Along P drafts (step :: steps) (shown :: rest)

theorem along_draftFrom {P : List CallError → DraftStep → Observed DraftResult → Prop}
    {p : Platform} {system : System}
    (each : ∀ past drafts step, P drafts step ((DraftStep.run p drafts step).run system past))
    (past : List Exchange) (drafts : List CallError) (steps : List DraftStep) :
    Along P drafts steps (draftFrom p system past drafts steps).1 := by
  induction steps generalizing past drafts with
  | nil => exact .nil drafts
  | cons step steps ih => exact .cons (each past drafts step) (ih _ _)

def causes : CallError → List CallError
  | .root _ => []
  | .dueTo _ cause => cause :: cause.causes

@[simp] theorem causes_ofStatus (status : UInt32) : (ofStatus status).causes = [] := rfl

@[simp] theorem causes_describe (e : CallError) (message : String) :
    (e.describe message).causes = e.causes := by
  cases e <;> rfl

@[simp] theorem causes_blame (e cause : CallError) :
    (e.blame cause).causes = cause :: cause.causes := rfl

@[simp] theorem comment_describe (e : CallError) (message : String) :
    (e.describe message).comment = e.comment := by
  cases e <;> rfl

@[simp] theorem comment_blame (e cause : CallError) : (e.blame cause).comment = e.comment := rfl

@[simp] theorem message_describe (e : CallError) (message : String) :
    (e.describe message).message = some message := by
  cases e <;> rfl

@[simp] theorem message_blame (e cause : CallError) : (e.blame cause).message = e.message := rfl

theorem explain_of_message {e : CallError} {message : String} (told : e.message = some message)
    (p : Platform) : explain p e = pure e := by
  unfold explain
  rw [told]
  cases p <;> rfl

theorem explain_of_none {e : CallError} (untold : e.message = none) :
    explain .windows e = do return e.withAnswer (← systemMessage e.status) := by
  unfold explain
  rw [untold]

/-- A message is asked for, and there is none but this failure. -/
structure Unexplained (p : Platform) (e : CallError) (system : System) (past : List Exchange)
    (failure : UInt32) : Prop where
  platform : p = .windows
  message : e.message = none
  failed : ((systemMessage e.status).run system past).value = .error failure

section Explaining
variable (p : Platform) (e : CallError) (system : System) (past : List Exchange)

theorem explain_cases :
    let after := ((explain p e).run system past).value
    (after = e ∧ (p = .windows → e.message ≠ none) ∧
        ∀ failure, ¬ Unexplained p e system past failure) ∨
      (∃ message, after = e.describe message ∧ ∀ failure, ¬ Unexplained p e system past failure) ∨
      ∃ message failure, after = (e.describe message).blame (ofStatus failure) ∧
        Unexplained p e system past failure := by
  intro after
  cases p with
  | plain => exact .inl ⟨rfl, nofun, fun _ unexplained => nomatch unexplained.platform⟩
  | windows =>
    cases told : e.message with
    | some message =>
      have same : after = e := by
        change ((explain .windows e).run system past).value = e
        rw [explain_of_message told, value_pure]
      refine .inl ⟨same, fun _ => nofun, fun failure unexplained => ?_⟩
      cases told.symm.trans unexplained.message
    | none =>
      have asked : after = e.withAnswer ((systemMessage e.status).run system past).value := by
        change ((explain .windows e).run system past).value = _
        rw [explain_of_none told, value_map]
      right
      cases answer : ((systemMessage e.status).run system past).value with
      | ok message =>
        refine .inl ⟨message, by rw [asked, answer]; rfl, fun failure unexplained => ?_⟩
        cases answer.symm.trans unexplained.failed
      | error failure =>
        exact .inr ⟨_, failure, by rw [asked, answer]; rfl, rfl, told, answer⟩

/-- An error that is explained keeps its status, its comment and its causes, unless the system has
no message for it: this failure is then its only cause, and earlier ones are lost. -/
theorem explain_keeps_causes_iff :
    let after := ((explain p e).run system past).value
    after.status = e.status ∧ after.comment = e.comment ∧ (p = .windows → after.message ≠ none) ∧
    ((∀ failure, ¬ Unexplained p e system past failure) → after.causes = e.causes) ∧
    (∀ failure, Unexplained p e system past failure → after.causes = [ofStatus failure]) ∧
    (e.causes.Sublist after.causes ↔ ∀ failure, Unexplained p e system past failure →
      e.causes = [] ∨ e.causes = [ofStatus failure]) := by
  intro after
  refine ⟨status_explain p e system past, ?_⟩
  obtain ⟨same, told, known⟩ | ⟨message, same, known⟩ | ⟨message, failure, same, unexplained⟩ :=
    explain_cases p e system past
  · change after = e at same
    rw [same]
    exact ⟨rfl, told, fun _ => rfl, fun failure failed => absurd failed (known failure),
      fun _ failure failed => absurd failed (known failure), fun _ => List.Sublist.refl _⟩
  · change after = e.describe message at same
    rw [same, comment_describe, message_describe, causes_describe]
    exact ⟨rfl, fun _ => nofun, fun _ => rfl, fun failure failed => absurd failed (known failure),
      fun _ failure failed => absurd failed (known failure), fun _ => List.Sublist.refl _⟩
  · change after = (e.describe message).blame (ofStatus failure) at same
    have only : ∀ other, Unexplained p e system past other → other = failure := fun other failed =>
      Except.error.inj (failed.failed.symm.trans unexplained.failed)
    rw [same, comment_blame, comment_describe, message_blame, message_describe, causes_blame,
      causes_ofStatus, List.sublist_singleton]
    refine ⟨rfl, fun _ => nofun, fun none => absurd unexplained (none failure),
      fun other failed => by rw [only other failed], fun kept other failed => ?_, fun kept => ?_⟩
    · rw [only other failed]
      exact kept
    · exact kept failure unexplained

end Explaining

theorem explain_keeps_causes_iff_denied :
    let denied := (ofStatus 5).blame ((ofStatus 2).annotate "RegOpenKeyExW")
    let knowing : Script := { messages := [(5, "Access is denied.")] }
    ((explain .windows denied).run knowing.system []).value.causes = denied.causes ∧
      ((explain .windows denied).run ({} : Script).system []).value.causes = [ofStatus 317] := by
  intro denied knowing
  have answer : ((systemMessage denied.status).run knowing.system []).value =
      .ok (Text.Utf16.decode (Text.Utf16.encode "Access is denied.")) := rfl
  have kept := (explain_keeps_causes_iff .windows denied knowing.system []).2.2.2.1
  have lost := (explain_keeps_causes_iff .windows denied ({} : Script).system []).2.2.2.2.1
  refine ⟨kept fun failure unexplained => ?_, lost 317 ⟨rfl, rfl, rfl⟩⟩
  cases answer.symm.trans unexplained.failed

theorem causes_lost_unexplained :
    let drafts := (draft .windows ({} : Script).system
      [.create 5, .create 2, .blame 0 1, .explain 2]).2
    drafts[2]?.map causes = some [ofStatus 2] ∧ drafts[3]?.map causes = some [ofStatus 317] ∧
      ¬ [ofStatus 2].Sublist [ofStatus 317] := by
  decide

end CounterCatalog.CallError
