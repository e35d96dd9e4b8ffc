import CounterCatalog.Proofs.CallError.Status
import CounterCatalog.Proofs.Query.Calls

set_option autoImplicit false

namespace CounterCatalog

open Query

theorem CallError.ofKind_registry_ofCall (p : Platform) (status : UInt32) (comment : String)
    (system : System) (past : List Exchange) :
    ofKind .registry ((ofCall p status comment).run system past).exchanges = [] :=
  ((ofCall_only status comment).ne_of_eq (by decide)).ofKind_eq_nil system past

namespace Registry

section Opening
variable {p : Platform} {parent : Int} {key : String} {system : System} {past : List Exchange}
  {reply : OpenReply}

theorem run_openForReading_success (h : Text.isTerminable key)
    (answer : system past (.openKey parent (Text.beforeNul key) readAccess) = reply)
    (status : reply.status = 0) :
    (openForReading p parent key).run system past =
      { value := .ok reply.handle
        exchanges := [⟨.openKey parent (Text.beforeNul key) readAccess, reply⟩] } := by
  rw [openForReading, if_pos h, run_bind, run_ask]
  dsimp only
  rw [answer, if_pos status]
  rfl

theorem value_openForReading_failure (h : Text.isTerminable key)
    (answer : system past (.openKey parent (Text.beforeNul key) readAccess) = reply)
    (status : reply.status ≠ 0) :
    ∃ error, ((openForReading p parent key).run system past).value = .error error ∧
      error.status = reply.status := by
  rw [openForReading, if_pos h, value_bind, run_ask]
  dsimp only
  rw [answer, if_neg status]
  exact ⟨_, rfl, CallError.status_ofCall _ _ _ _ _⟩

theorem ofKind_openForReading_failure (h : Text.isTerminable key)
    (answer : system past (.openKey parent (Text.beforeNul key) readAccess) = reply)
    (status : reply.status ≠ 0) :
    ofKind .registry ((openForReading p parent key).run system past).exchanges =
      [⟨.openKey parent (Text.beforeNul key) readAccess, reply⟩] := by
  rw [openForReading, if_pos h, exchanges_bind, run_ask, ofKind_append]
  dsimp only
  rw [answer, if_neg status, exchanges_map, CallError.ofKind_registry_ofCall, List.append_nil]
  exact ofKind_singleton ⟨.openKey parent (Text.beforeNul key) readAccess, reply⟩

end Opening

section Releasing
variable (p : Platform) (handle : Int) (system : System) (past : List Exchange)

theorem ofKind_releaseKey :
    ofKind .registry ((releaseKey p handle).run system past).exchanges =
      [⟨.closeKey handle, system past (.closeKey handle)⟩] := by
  have own := ofKind_singleton ⟨.closeKey handle, system past (.closeKey handle)⟩
  have closed : ofKind .registry ((releaseKey p handle).run system past).exchanges =
      ofKind .registry ((close p handle).run system past).exchanges := by
    refine ofKind_bind_of_only (fun result => ?_) system past
    cases result with
    | ok => exact .pure ()
    | error error => exact .say _ _
  rw [closed]
  rw [close, exchanges_bind, run_ask, ofKind_append]
  dsimp only
  split
  · rw [exchanges_pure, ofKind_nil, List.append_nil]
    exact own
  · rw [exchanges_map, CallError.ofKind_registry_ofCall, List.append_nil]
    exact own

theorem log_releaseKey_of_closed (status : system past (.closeKey handle) = (0 : UInt32)) :
    ((releaseKey p handle).run system past).log = [] := by
  have closed : (close p handle).run system past =
      { value := .ok (), exchanges := [⟨.closeKey handle, system past (.closeKey handle)⟩] } := by
    rw [close, run_bind, run_ask]
    dsimp only
    rw [if_pos status]
    rfl
  rw [releaseKey, run_bind, closed]
  rfl

theorem log_releaseKey_of_kept {status : UInt32}
    (answer : system past (.closeKey handle) = status) (kept : status ≠ 0) :
    ∃ error : CallError, error.status = status ∧
      ((releaseKey p handle).run system past).log =
        [⟨.warn, "RegCloseKey Error: " ++ error.display⟩] := by
  have told : ((close p handle).run system past).log = [] ∧ ∃ error : CallError,
      ((close p handle).run system past).value = .error error ∧ error.status = status := by
    rw [close, run_bind, run_ask]
    dsimp only
    rw [answer, if_neg kept]
    refine ⟨?_, _, rfl, CallError.status_ofCall _ _ _ _ _⟩
    change [] ++ (((CallError.ofCall p status "RegCloseKey").run system _).log ++ []) = []
    rw [CallError.ofCall_silent]
    rfl
  obtain ⟨quiet, error, failed, own⟩ := told
  refine ⟨error, own, ?_⟩
  rw [releaseKey, run_bind, quiet, failed]
  rfl

end Releasing

end Registry

end CounterCatalog
