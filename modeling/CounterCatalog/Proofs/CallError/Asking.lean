import CounterCatalog.Proofs.CallError.Causes
import CounterCatalog.Proofs.Query.Run

set_option autoImplicit false

namespace CounterCatalog

open Query

/-- A request for the message of a status, in the tables of the system (`0x1000`) and of a module
that was found (`0x800`), inserts ignored (`0x200`), into a buffer to be allocated (`0x100`). -/
structure MessageRequest.AsksFor (r : MessageRequest) (status : UInt32) (found : Bool) : Prop where
  status : r.status = status
  fromModule : r.fromModule = found
  flags : r.flags = if found then 0x1B00 else 0x1300
  language : r.language = 0
  size : r.size = 0

theorem MessageRequest.asksFor_ofStatus (status : UInt32) (found : Bool) :
    (ofStatus status found).AsksFor status found where
  status := rfl
  fromModule := rfl
  flags := by cases found <;> rfl
  language := rfl
  size := rfl

/-- The calls that ask for the message of a status once. The buffer that is allocated for a text is
freed by the next call, and where there is no text none is. -/
inductive AsksMessage (status : UInt32) : List Exchange → Prop where
  | told {found : Bool} {r : MessageRequest} {reply : MessageReply} (asks : r.AsksFor status found)
      (some : reply.units ≠ []) :
      AsksMessage status
        [⟨.findModule "pdh.dll", found⟩, ⟨.formatMessage r, reply⟩,
          ⟨@Call.freeMessage reply.buffer, ()⟩]
  | untold {found : Bool} {r : MessageRequest} {reply : MessageReply}
      (asks : r.AsksFor status found) (none : reply.units = []) (failure : UInt32) :
      AsksMessage status
        [⟨.findModule "pdh.dll", found⟩, ⟨.formatMessage r, reply⟩, ⟨.lastError, failure⟩]

/-- Whatever the system answers, the query makes these calls and no others. -/
def Query.AsksOnce {α : Type} (status : UInt32) (q : Query α) : Prop :=
  ∀ system past, AsksMessage status (q.run system past).exchanges

section AsksOnce
variable {α β : Type} {status : UInt32}

theorem Query.AsksOnce.map {q : Query α} (h : q.AsksOnce status) (f : α → β) :
    (q >>= fun value => pure (f value)).AsksOnce status := by
  intro system past
  rw [exchanges_map]
  exact h system past

theorem Query.AsksOnce.said {next : Unit → Query β} (h : (next ()).AsksOnce status)
    (level : Level) (text : String) : (say level text >>= next).AsksOnce status := by
  intro system past
  rw [exchanges_say_bind]
  exact h system past

theorem systemMessage_asksOnce (status : UInt32) : (systemMessage status).AsksOnce status := by
  intro system past
  rw [systemMessage, exchanges_bind, run_ask, exchanges_bind, run_ask]
  dsimp only
  generalize system past (.findModule "pdh.dll") = found
  have asks := MessageRequest.asksFor_ofStatus status found
  generalize system _ (.formatMessage _) = reply
  by_cases none : reply.units = []
  · rw [if_pos none, exchanges_map, run_ask]
    exact .untold asks none _
  · rw [if_neg none, exchanges_map, run_ask]
    exact .told asks none

end AsksOnce

namespace CallError

theorem explain_asksOnce {e : CallError} (untold : e.message = none) :
    (explain .windows e).AsksOnce e.status := by
  rw [explain_of_none untold]
  exact (systemMessage_asksOnce e.status).map _

theorem ofCall_asksOnce (status : UInt32) (comment : String) :
    (ofCall .windows status comment).AsksOnce status :=
  (explain_asksOnce (e := ofStatus status) rfl).map _

theorem message_explain (e : CallError) (system : System) (past : List Exchange) :
    ((explain .windows e).run system past).value.message ≠ none :=
  (explain_keeps_causes_iff .windows e system past).2.2.1 rfl

theorem explain_explained (e : CallError) (system : System) (past : List Exchange) :
    let after := ((explain .windows e).run system past).value
    explain .windows after = pure after := by
  intro after
  obtain ⟨message, told⟩ := Option.ne_none_iff_exists'.mp (message_explain e system past)
  exact explain_of_message told .windows

@[simp] theorem message_annotate (e : CallError) (comment : String) :
    (e.annotate comment).message = e.message := by
  cases e <;> rfl

theorem message_ofCall (status : UInt32) (comment : String) (system : System)
    (past : List Exchange) :
    ((ofCall .windows status comment).run system past).value.message ≠ none := by
  rw [ofCall, value_map, message_annotate]
  exact message_explain (ofStatus status) system past

/-- The status that the step has to ask about, if there is any. -/
def DraftStep.asks? (drafts : List CallError) : DraftStep → Option UInt32
  | .createExplained status => some status
  | .explain error => (drafts[error]?.filter (·.message = none)).map status
  | .create _ | .annotate _ _ | .blame _ _ | .compare _ _ => none

/-- A message is asked for once where one has to be, and an error that has one is given back as it
is. -/
structure DraftStep.AsksOnce (drafts : List CallError) (step : DraftStep)
    (shown : Observed DraftResult) : Prop where
  asked : ∀ status ∈ step.asks? drafts, AsksMessage status shown.exchanges
  unasked : step.asks? drafts = none → shown.exchanges = []
  same : ∀ error draft, step = .explain error → drafts[error]? = some draft →
    draft.message ≠ none → shown.value = .made draft

section Explaining
variable {drafts : List CallError} {error : Nat}

theorem DraftStep.asks?_explain {draft : CallError} (found : drafts[error]? = some draft) :
    (DraftStep.explain error).asks? drafts =
      if draft.message = none then some draft.status else none := by
  rw [asks?, found, Option.filter_some]
  by_cases untold : draft.message = none <;> simp [untold]

theorem DraftStep.asksOnce_missing (missing : drafts[error]? = none) :
    (DraftStep.explain error).AsksOnce drafts { value := .missing } where
  asked status asks := by simp [asks?, missing] at asks
  unasked _ := rfl
  same := by
    rintro _ draft ⟨⟩ found
    cases missing.symm.trans found

theorem DraftStep.asksOnce_explain {draft : CallError} (found : drafts[error]? = some draft)
    (system : System) (past : List Exchange) :
    (DraftStep.explain error).AsksOnce drafts
      ((CallError.explain .windows draft >>= fun made => pure (.made made)).run system past) := by
  cases told : draft.message with
  | none =>
    refine ⟨fun status own => ?_, fun none => ?_, ?_⟩
    · rw [asks?_explain found, if_pos told] at own
      cases own
      exact (explain_asksOnce told).map _ system past
    · rw [asks?_explain found, if_pos told] at none
      cases none
    · rintro _ other ⟨⟩ there message
      cases found.symm.trans there
      exact absurd told message
  | some message =>
    rw [explain_of_message told, pure_bind, run_pure]
    refine ⟨fun status own => ?_, fun _ => rfl, ?_⟩
    · rw [asks?_explain found, told] at own
      cases own
    · rintro _ other ⟨⟩ there -
      cases found.symm.trans there
      rfl

end Explaining

theorem DraftStep.asksOnce_run (drafts : List CallError) (step : DraftStep) (system : System)
    (past : List Exchange) : step.AsksOnce drafts ((step.run .windows drafts).run system past) := by
  cases step with
  | create | annotate => exact ⟨nofun, fun _ => rfl, nofun⟩
  | createExplained status =>
    refine ⟨fun code own => ?_, nofun, nofun⟩
    cases own
    exact (explain_asksOnce (e := ofStatus status) rfl).map _ system past
  | blame error cause | compare error other =>
    refine ⟨nofun, fun _ => ?_, nofun⟩
    rw [DraftStep.run]
    split <;> rfl
  | explain error =>
    rw [DraftStep.run]
    split
    · next draft found => exact asksOnce_explain found system past
    · next missing => exact asksOnce_missing missing

end CallError

end CounterCatalog
