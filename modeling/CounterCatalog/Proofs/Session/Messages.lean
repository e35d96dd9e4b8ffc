import CounterCatalog.Proofs.Session.Agreement
import CounterCatalog.System.Script

set_option autoImplicit false

namespace CounterCatalog

open Query

/-- All calls but those for messages, and of a warning only that there was one. -/
def View.withoutMessages : View where
  call call := call.kind ≠ .messages
  line line := some (if line.level = .warn then { line with text := "" } else line)

theorem View.ofSessions_withoutMessages : View.withoutMessages.OfSessions where
  counters call kind := by simp [withoutMessages, kind]
  table call kind := by simp [withoutMessages, kind]
  hides call kind := by simp [withoutMessages, kind]
  warnings text other := rfl

theorem View.seesRegistry_withoutMessages : View.withoutMessages.SeesRegistry :=
  fun call kind => by simp [withoutMessages, kind]

theorem read_withoutMessages {first second : System}
    (agree : System.Agree .withoutMessages first second) (p : Platform) (e : Encoding) :
    TextRelation.Read (fun _ => Eq) .withoutMessages first second p p e where
  empty := rfl
  units units := by
    refine ((Wire.readUnits_only p e units).mono fun call h => ?_).agree agree
    simp [View.withoutMessages, h.1]

namespace CallError

theorem value_systemMessage_of_lastError {status code : UInt32} {system : System}
    {past : List Exchange}
    (failed : ⟨.lastError, code⟩ ∈ ((systemMessage status).run system past).exchanges) :
    ((systemMessage status).run system past).value = .error code := by
  unfold systemMessage at failed ⊢
  rw [exchanges_bind, run_ask, exchanges_bind, run_ask] at failed
  rw [value_bind, run_ask, value_bind, run_ask]
  dsimp only at failed ⊢
  generalize past ++ _ = asked at failed ⊢
  generalize system asked _ = reply at failed ⊢
  by_cases none : reply.units = []
  · rw [if_pos none, exchanges_map, run_ask] at failed
    rw [if_pos none, value_map, run_ask]
    -- Of the three calls only the last one is for the failure.
    simp only [List.mem_append, List.mem_singleton, Exchange.mk.injEq, reduceCtorEq, false_and,
      false_or, true_and, heq_eq_eq] at failed
    rw [failed]
  · rw [if_neg none, exchanges_map, run_ask] at failed
    exact absurd failed (by simp)

theorem cause?_ofCall (status : UInt32) (comment : String) (system : System)
    (past : List Exchange) (code : UInt32)
    (failed : ⟨.lastError, code⟩ ∈ ((ofCall .windows status comment).run system past).exchanges) :
    ((ofCall .windows status comment).run system past).value.cause? = some (.ofStatus code) := by
  have asked : ofCall .windows status comment = systemMessage status >>= fun answer =>
    pure (((ofStatus status).withAnswer answer).annotate comment) := by
    change (systemMessage status >>= fun answer => pure ((ofStatus status).withAnswer answer)) >>=
      (fun error => pure (error.annotate comment)) = _
    simp only [bind_assoc, pure_bind]
  rw [asked, exchanges_map] at failed
  rw [asked, value_map, value_systemMessage_of_lastError failed]
  rfl

end CallError

theorem Script.agree_withoutMessages (s : Script) (hasModule : Bool)
    (messages : List (Nat × String)) (lastError : UInt32) :
    System.Agree .withoutMessages s.system { s with hasModule, messages, lastError }.system := by
  intro past other alike call seen
  have reply := counterReply_congr (s := s) (t := { s with hasModule, messages, lastError }) rfl
    View.ofSessions_withoutMessages.counters alike
  have value := valueReply_congr (s := s) (t := { s with hasModule, messages, lastError }) rfl
    View.seesRegistry_withoutMessages alike
  cases call with
  | lookup | enumerate | nativeLookup | nativeEnumerate =>
    simp only [system]
    rw [reply]
  | queryValue request => exact congrArg (ValueReply.answer request) value
  | readTable | measureAnsi | convertAnsi | openKey | closeKey => rfl
  | findModule | formatMessage | lastError | freeMessage => cases seen

namespace Session

/-- Whatever the system answers when it is asked for messages, a session makes the same other calls,
and every step has the same value or fails with the same status and comment. -/
theorem messages_do_not_interfere (s : Session) (steps : List Step) (first second : System)
    (agree : System.Agree .withoutMessages first second) :
    List.Forall₂
      (Observed.Agree .withoutMessages fun es outcome => outcome.Alike Eq Eq es)
      (s.run first steps) (s.run second steps) ∧
    ∀ status comment system past,
      let made := (CallError.ofCall .windows status comment).run system past
      made.value.status = status ∧ made.value.comment = some comment ∧
      ∀ code, ⟨.lastError, code⟩ ∈ made.exchanges →
        made.value.cause? = some (.ofStatus code) := by
  constructor
  · refine (agree_runFrom View.ofSessions_withoutMessages agree s
      (read_withoutMessages agree s.client.platform s.client.encoding) steps
      (fun _ => View.seesRegistry_withoutMessages) [] [] rfl).imp fun shown other alike => ?_
    exact ⟨alike.exchanges, alike.log,
      alike.value.mono (fun _ _ => NameAlike.eq) fun _ _ => ItemsAlike.eq⟩
  · intro status comment system past
    exact ⟨CallError.status_ofCall _ _ _ _ _, CallError.comment_ofCall _ _ _ _ _,
      CallError.cause?_ofCall status comment system past⟩

def troubled : Script where
  replies :=
    [{ status := Status.moreData, name := { size := some 3 } }, { status := Status.noObject }]
  messages := [(5, "Access is denied.\x0d\x0a"), (3221228472, "Not found.")]
  openStatus := 5
  closeStatus := 6

theorem messages_do_not_interfere_troubled :
    let session : Session := { client := .native .narrow, table := .registry }
    let steps : List Step := [.nameOf none 6, .lookupIndex "System", .closeKey 7]
    let mute : Script := { troubled with hasModule := false, messages := [], lastError := 8 }
    System.Agree .withoutMessages troubled.system mute.system ∧
      List.Forall₂
        (Observed.Agree .withoutMessages fun es outcome => outcome.Alike Eq Eq es)
        (session.run troubled.system steps) (session.run mute.system steps) := by
  intro session steps mute
  have agree := troubled.agree_withoutMessages false [] 8
  exact ⟨agree, (messages_do_not_interfere session steps _ _ agree).1⟩

end Session

end CounterCatalog
