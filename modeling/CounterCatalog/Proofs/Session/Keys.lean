import CounterCatalog.Proofs.Table.EnglishKey
import CounterCatalog.Session

set_option autoImplicit false

namespace CounterCatalog

open Query Registry

section Steps
variable {p : Platform} {system : System} {past : List Exchange}

theorem Table.Source.keyUse_read (source : Table.Source) :
    KeyUse (ofKind .registry ((source.read p).run system past).exchanges) := by
  cases source with
  | listed | failing | provided => exact .unused
  | registry => exact Table.keyUse_readEnglish

theorem Table.Source.keyUse_lookupIndex (source : Table.Source) (name : String) :
    KeyUse (ofKind .registry ((source.lookupIndex p name).run system past).exchanges) := by
  rw [source.exchanges_lookupIndex]
  exact source.keyUse_read

theorem Client.keyUse_localizedName (c : Client) (source : Table.Source) (machine : Option String)
    (name : String) :
    KeyUse (ofKind .registry
      ((c.localizedName source machine name).run system past).exchanges) := by
  rw [c.ofKind_localizedName_of_ne fun _ => Call.asksCounters.ne_registry]
  exact source.keyUse_read

theorem Registry.keyUse_tryKey (key : String) :
    KeyUse (ofKind .registry ((tryKey p localMachine key).run system past).exchanges) := by
  rw [tryKey, exchanges_bind, ofKind_append]
  by_cases name : Text.isTerminable key
  · let reply : OpenReply := system past (.openKey localMachine (Text.beforeNul key) readAccess)
    by_cases status : reply.status = 0
    · rw [run_openForReading_success name rfl status]
      dsimp only
      rw [exchanges_bind, exchanges_pure, List.append_nil, ofKind_releaseKey]
      exact .closed _ readAccess reply status [] (by simp) _
    · obtain ⟨error, value, -⟩ := value_openForReading_failure (p := p) name rfl status
      rw [ofKind_openForReading_failure name rfl status, value]
      exact .refused _ readAccess reply status
  · rw [openForReading, if_neg name]
    exact .unused

end Steps

namespace Session

def Step.opensOwnKeys : Step → Bool
  | .tryKey parent _ => parent = localMachine
  | .closeKey _ | .readValue _ _ | .readInto _ _ | .readStrings _ => false
  | _ => true

theorem Step.keyUse (s : Session) (step : Step) (h : step.opensOwnKeys) (system : System)
    (past : List Exchange) :
    KeyUse (ofKind .registry ((step.run s).run system past).exchanges) := by
  have unused : ∀ {α : Type} {q : Query α}, Only Call.asksCounters q →
      KeyUse (ofKind .registry (q.run system past).exchanges) := by
    intro α q only
    rw [(only.mono fun _ => Call.asksCounters.ne_registry).ofKind_eq_nil]
    exact .unused
  cases step with
  | nameOf machine index =>
    exact unused (.bind (s.client.nameOf_only machine index) fun _ => .pure _)
  | enumerate subject => exact unused (.bind (s.client.enumerate_only subject) fun _ => .pure _)
  | nativeLookup request =>
    exact unused (.bind (Binding.native.lookup_only request) fun _ => .pure _)
  | nativeEnumerate request =>
    exact unused (.bind (Binding.native.enumerate_only request) fun _ => .pure _)
  | useTable | copyClient => exact .unused
  | lookupIndex name =>
    rw [Step.run, exchanges_map]
    exact s.table.keyUse_lookupIndex name
  | localizedName machine name =>
    rw [Step.run, exchanges_map]
    exact s.client.keyUse_localizedName s.table machine name
  | readTable =>
    rw [Step.run, exchanges_map]
    exact s.table.keyUse_read
  | tryKey parent key =>
    cases (of_decide_eq_true h : parent = localMachine)
    rw [Step.run, exchanges_map]
    exact keyUse_tryKey key
  | closeKey | readValue | readInto | readStrings => cases h

theorem keyUse_runFrom (system : System) (steps : List Step)
    (h : ∀ step ∈ steps, step.opensOwnKeys) (past : List Exchange) (s : Session) :
    ∀ es ∈ (runFrom system past s steps).map fun shown => ofKind .registry shown.exchanges,
      KeyUse es := by
  -- Each step runs behind what the steps before it left, and uses a key anew.
  induction steps generalizing past s with
  | nil => exact fun es he => absurd he List.not_mem_nil
  | cons step steps ih =>
    intro es he
    rcases List.mem_cons.mp he with rfl | later
    · exact step.keyUse s (h step List.mem_cons_self) system past
    · exact ih (fun later hl => h later (List.mem_cons_of_mem _ hl)) _ _ es later

/-- A read of the English table closes the key that it opened as the last thing it asks of the
registry, and over a session only handles that are held are used and all of them are closed. -/
theorem opened_keys_closed (p : Platform) (system : System) :
    (∀ past,
      let reply := Table.opened system past
      let read := (Table.readEnglish p).run system past
      (reply.status ≠ 0 →
        ofKind .registry read.exchanges =
          [⟨.openKey localMachine Table.englishKey readAccess, reply⟩] ∧
        ∃ error, read.value = .error error ∧ error.status = reply.status) ∧
      (reply.status = 0 → ∃ (queries : List Exchange) (closing : UInt32), queries ≠ [] ∧
        (∀ e ∈ queries, e.call.Queries reply.handle) ∧
        ofKind .registry read.exchanges =
          ⟨.openKey localMachine Table.englishKey readAccess, reply⟩ ::
            (queries ++ [⟨.closeKey reply.handle, closing⟩]) ∧
        let quiet := (Table.readEnglish p).run (system.closing 0) past
        read.value = quiet.value ∧
        (closing = 0 → read.log = quiet.log) ∧
        (closing ≠ 0 → ∃ error : CallError, error.status = closing ∧
          read.log = quiet.log ++ [⟨.warn, "RegCloseKey Error: " ++ error.display⟩]))) ∧
    ∀ (s : Session) (steps : List Step), (∀ step ∈ steps, step.opensOwnKeys) →
      let uses := (s.run system steps).map fun shown => ofKind .registry shown.exchanges
      (∀ es ∈ uses, KeyUse es) ∧
      heldAfter [] uses.flatten = some [] ∧
      openedHandles uses.flatten = closedHandles uses.flatten := by
  refine ⟨fun past => ⟨Table.readEnglish_of_refused, fun status => ?_⟩, fun s steps h => ?_⟩
  · obtain ⟨queries, later, some, own, calls, value, log⟩ :=
      Table.calls_readEnglish_of_opened (p := p) status
    refine ⟨queries, _, some, own, calls, value, fun closed => ?_, fun kept => ?_⟩
    · rw [log, log_releaseKey_of_closed p _ system later closed, List.append_nil]
    · obtain ⟨error, told, warned⟩ := log_releaseKey_of_kept p _ system later rfl kept
      exact ⟨error, told, by rw [log, warned]⟩
  · have uses := keyUse_runFrom system steps h [] s
    exact ⟨uses, keyUses_balanced uses []⟩

def clinging : Script where
  values := [.holding (some 1) [65, 0]]
  closeStatus := 6

theorem opened_keys_closed_clinging :
    ((Table.readEnglish .windows).run clinging.system []).value =
        ((Table.readEnglish .windows).run (clinging.system.closing 0) []).value ∧
      heldAfter [] ((run { client := .native .wide, table := .registry } clinging.system
        [.readTable, .localizedName none "System", .tryKey localMachine "SOFTWARE"]).map
          fun shown => ofKind .registry shown.exchanges).flatten = some [] := by
  obtain ⟨reads, sessions⟩ := opened_keys_closed .windows clinging.system
  obtain ⟨-, -, -, -, -, value, -⟩ := (reads []).2 rfl
  exact ⟨value, (sessions _ _ (by decide)).2.1⟩

end Session

end CounterCatalog
