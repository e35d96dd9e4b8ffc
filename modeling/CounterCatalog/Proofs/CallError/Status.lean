import CounterCatalog.CallError.Message
import CounterCatalog.Proofs.Query.Run

set_option autoImplicit false

namespace CounterCatalog.CallError

open Query

@[simp] theorem status_ofStatus (status : UInt32) : (ofStatus status).status = status := rfl

@[simp] theorem status_annotate (e : CallError) (comment : String) :
    (e.annotate comment).status = e.status := by
  cases e <;> rfl

@[simp] theorem status_describe (e : CallError) (message : String) :
    (e.describe message).status = e.status := by
  cases e <;> rfl

@[simp] theorem status_blame (e cause : CallError) : (e.blame cause).status = e.status := rfl

@[simp] theorem status_withAnswer (e : CallError) (answer : Except UInt32 String) :
    (e.withAnswer answer).status = e.status := by
  cases answer with
  | ok message => exact e.status_describe message
  | error failure => rw [withAnswer, status_blame, status_describe]

@[simp] theorem status_explain (p : Platform) (e : CallError) (system : System)
    (past : List Exchange) : ((explain p e).run system past).value.status = e.status := by
  unfold explain
  split
  · rw [value_map, status_withAnswer]
  · rfl

@[simp] theorem status_ofCall (p : Platform) (status : UInt32) (comment : String)
    (system : System) (past : List Exchange) :
    ((ofCall p status comment).run system past).value.status = status := by
  rw [ofCall, value_map, status_annotate, status_explain, status_ofStatus]

@[simp] theorem comment_annotate (e : CallError) (comment : String) :
    (e.annotate comment).comment = some comment := by
  cases e <;> rfl

@[simp] theorem comment_ofCall (p : Platform) (status : UInt32) (comment : String)
    (system : System) (past : List Exchange) :
    ((ofCall p status comment).run system past).value.comment = some comment := by
  rw [ofCall, value_map, comment_annotate]

theorem systemMessage_silent (status : UInt32) : Silent (systemMessage status) := by
  unfold systemMessage
  apply Silent.bind (.ask _)
  intro found
  apply Silent.bind (.ask _)
  intro units
  split
  · exact Silent.bind (.ask _) fun _ => .pure _
  · exact Silent.bind (.ask _) fun _ => .pure _

theorem ofCall_silent (p : Platform) (status : UInt32) (comment : String) :
    Silent (ofCall p status comment) := by
  apply Silent.bind ?_ fun _ => .pure _
  unfold explain
  split
  · exact Silent.bind (systemMessage_silent _) fun _ => .pure _
  · exact .pure _

section Results
variable {α : Type} {result : Except CallError α}

theorem eq_ok_of_mapError {value : α} (h : result.mapError status = .ok value) :
    result = .ok value := by
  cases result with
  | ok found =>
    cases h
    rfl
  | error error => cases h

theorem exists_error_of_mapError {code : UInt32} (h : result.mapError status = .error code) :
    ∃ error, result = .error error ∧ error.status = code := by
  cases result with
  | ok found => cases h
  | error error => exact ⟨error, rfl, Except.error.inj h⟩

end Results

end CounterCatalog.CallError
