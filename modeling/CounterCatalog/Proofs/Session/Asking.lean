import CounterCatalog.Proofs.Counter.Asking
import CounterCatalog.Proofs.Registry.Asking
import CounterCatalog.Proofs.Session.TwoCalls
import CounterCatalog.System.Script
import Mathlib.Data.List.Forall2

set_option autoImplicit false

namespace CounterCatalog

open Query

section Tables
variable {probed : Bool}

theorem Table.readEnglish_explains : (Table.readEnglish .windows).Explains probed probed := by
  refine (Registry.openForReading_explains _ _).bind fun result => ?_
  cases result with
  | error _ => exact .pure _
  | ok handle =>
    exact (Registry.readStrings_explains _).bind fun _ =>
      (Registry.releaseKey_explains handle).map _

theorem Table.Source.read_explains (source : Table.Source) :
    (source.read .windows).Explains probed probed := by
  cases source with
  | listed | failing => exact .pure _
  | provided => exact (Only.ask (.inr rfl)).explains.map _
  | registry => exact Table.readEnglish_explains

theorem Table.Source.lookupIndex_explains (source : Table.Source) (name : String) :
    (source.lookupIndex .windows name).Explains probed probed := by
  refine source.read_explains.bind fun result => ?_
  cases result with
  | ok table => exact (Table.findIndex_only _ table name).explains
  | error _ => exact (Explains.say _ _).map _

end Tables

theorem Client.explained_localizedName {c : Client} (windows : c.platform = .windows)
    (source : Table.Source) (machine : Option String) (name : String) (system : System)
    (past : List Exchange) : ∃ after,
    Explained false ((c.localizedName source machine name).run system past).exchanges after := by
  rw [localizedName, exchanges_bind, windows]
  have table : Explained false _ false := source.lookupIndex_explains name system past
  generalize past ++ _ = asked
  split
  · exact ⟨false, table.append (.nil false)⟩
  · obtain ⟨after, named⟩ := nameOf_explains windows machine _
    exact ⟨after, table.append (named.map _ system asked)⟩

namespace Session

/-- What a step asks the system about: each failure of a call, once. The native binding hands a
failure on as it is. -/
def Step.Asks (es : List Exchange) : Step → Prop
  | .nativeLookup _ | .nativeEnumerate _ => ofKind .messages es = []
  | _ => ∃ after, Explained false es after

theorem Step.asks_run {s : Session} (windows : s.client.platform = .windows) (step : Step)
    (system : System) (past : List Exchange) :
    step.Asks ((step.run s).run system past).exchanges := by
  cases step with
  | nameOf machine index =>
    obtain ⟨after, named⟩ := Client.nameOf_explains windows machine index
    exact ⟨after, named.map _ system past⟩
  | enumerate subject =>
    obtain ⟨after, listed⟩ := Client.enumerate_explains windows subject
    exact ⟨after, listed.map _ system past⟩
  | localizedName machine name =>
    rw [Step.run, exchanges_map]
    exact Client.explained_localizedName windows s.table machine name system past
  | nativeLookup request =>
    rw [Step.run, exchanges_map]
    exact ((Binding.native.lookup_counters request).ne_of_eq (by decide)).ofKind_eq_nil system past
  | nativeEnumerate request =>
    rw [Step.run, exchanges_map]
    exact ((Binding.native.enumerate_counters request).ne_of_eq (by decide)).ofKind_eq_nil
      system past
  | useTable | copyClient => exact ⟨false, .nil false⟩
  | lookupIndex name =>
    rw [Step.run, windows]
    exact ⟨false, (s.table.lookupIndex_explains name).map _ system past⟩
  | readTable =>
    rw [Step.run, windows]
    exact ⟨false, s.table.read_explains.map _ system past⟩
  | tryKey parent key =>
    rw [Step.run, windows]
    exact ⟨false, (Registry.tryKey_explains parent key).map _ system past⟩
  | closeKey key =>
    rw [Step.run, windows]
    exact ⟨false, (Registry.close_explains key).map _ system past⟩
  | readValue value wantsType =>
    rw [Step.run, windows]
    exact ⟨false, (Registry.readValue_explains value wantsType).map _ system past⟩
  | readInto value buffer =>
    rw [Step.run, windows]
    exact ⟨false, (Registry.readInto_explains value false buffer).map _ system past⟩
  | readStrings value =>
    rw [Step.run, windows]
    exact ⟨false, (Registry.readStrings_explains value).map _ system past⟩

theorem asks_runFrom (system : System) (steps : List Step) (past : List Exchange) (s : Session)
    (windows : s.client.platform = .windows) :
    List.Forall₂ (fun step shown => step.Asks shown.exchanges) steps
      (runFrom system past s steps) := by
  -- Each step runs behind what the steps before it left, and none of them changes the client.
  induction steps generalizing past s with
  | nil => exact .nil
  | cons step steps ih =>
    exact .cons (step.asks_run windows system past) (ih _ _ (by rw [client_after]; exact windows))

/-- On Windows, whatever the system answers: an error without a message is asked about once, with
its own status, and one that has a message never. A session asks about each failed call once, at
once, and about nothing else. An error of no call is not asked about; a read that ends with one asks
at most about its size hint, which fails by itself. -/
theorem messages_asked_once (system : System) (past : List Exchange) :
    (∀ e : CallError,
      let shown := (CallError.explain .windows e).run system past
      (e.message = none → AsksMessage e.status shown.exchanges) ∧
      (e.message ≠ none → shown.exchanges = [] ∧ shown.value = e) ∧
      ∀ second later,
        let again := (CallError.explain .windows shown.value).run second later
        again.exchanges = [] ∧ again.value = shown.value) ∧
    (∀ (drafts : List CallError) (steps : List CallError.DraftStep),
      CallError.Along (fun found step shown => step.AsksOnce found shown) drafts steps
        (CallError.draftFrom .windows system past drafts steps).1) ∧
    (∀ (s : Session) (steps : List Step), s.client.platform = .windows →
      List.Forall₂ (fun step shown => step.Asks shown.exchanges) steps
        (runFrom system past s steps)) ∧
    (∀ (c : Client) (machine : String) (index : UInt32), '\x00' ∈ machine.toList →
      ((c.nameOf (some machine) index).run system past).Refused) ∧
    (∀ (c : Client) (subject : Client.Subject) (text : String), '\x00' ∈ text.toList →
      subject.source = some text ∨ subject.machine = some text ∨ subject.object = text →
        ((c.enumerate subject).run system past).Refused) ∧
    (∀ (parent : Int) (key : String) (front back : List Char),
      key.toList = front ++ '\x00' :: back → back ≠ [] →
        ((Registry.openForReading .windows parent key).run system past).Refused) ∧
    (∀ (v : Registry.ValueName) (wantsType : Bool) (front back : List Char),
      v.name.toList = front ++ '\x00' :: back → back ≠ [] →
        ((Registry.readValue .windows v wantsType).run system past).Refused) ∧
    ∀ e : CallError, e.Uncalled →
      (∀ (c : Client) (machine : Option String) (index : UInt32), c.platform = .windows →
        let asked := (c.nameOf machine index).run system past
        asked.value = .error e → asked.exchanges = []) ∧
      (∀ (c : Client) (subject : Client.Subject), c.platform = .windows →
        let asked := (c.enumerate subject).run system past
        asked.value = .error e → asked.exchanges = []) ∧
      (∀ (parent : Int) (key : String),
        let opened := (Registry.openForReading .windows parent key).run system past
        opened.value = .error e → opened.exchanges = []) ∧
      (∀ (v : Registry.ValueName) (wantsType : Bool) (buffer : Buffer),
        let read := (Registry.readInto .windows v wantsType buffer).run system past
        read.value.result = .error e → Registry.AsksForHint v system past read.exchanges) ∧
      ∀ v : Registry.ValueName,
        let read := (Registry.readStrings .windows v).run system past
        read.value = .error e → Registry.AsksForHint v system past read.exchanges := by
  refine ⟨fun e => ⟨fun untold => ?_, fun told => ?_, fun second later => ?_⟩,
    fun drafts steps => ?_, fun s steps windows => asks_runFrom system steps past s windows,
    fun c machine index nul => Client.nameOf_refused index rfl nul system past,
    fun c subject text nul passed => Client.enumerate_refused passed nul system past,
    fun parent key front back nul more =>
      Registry.openForReading_refused (Text.not_isTerminable nul more) parent system past,
    fun v wantsType front back nul more =>
      Registry.readValue_refused (Text.not_isTerminable nul more) wantsType system past,
    fun e uncalled => ⟨fun c machine index windows => ?_, fun c subject windows => ?_,
      fun parent key => ?_, fun v wantsType buffer failed => ?_, fun v => ?_⟩⟩
  · exact CallError.explain_asksOnce untold system past
  · obtain ⟨message, known⟩ := Option.ne_none_iff_exists'.mp told
    rw [CallError.explain_of_message known]
    exact ⟨rfl, rfl⟩
  · rw [CallError.explain_explained]
    exact ⟨rfl, rfl⟩
  · exact CallError.along_draftFrom
      (fun past drafts step => step.asksOnce_run drafts system past) past drafts steps
  · exact Client.nameOf_uncalled index windows uncalled
  · exact Client.enumerate_uncalled windows uncalled
  · exact Registry.openForReading_uncalled uncalled
  · refine Registry.asksForHint_readInto fun other own => ?_
    cases failed.symm.trans own
    exact uncalled.message
  · exact Registry.asksForHint_readStrings uncalled.message

def wordless : Script where
  replies := [{ status := Status.noObject }]
  messages := [(5, "Access is denied.")]
  openStatus := 5
  values := [.fixed { status := 2 }, .holding (some 1) [65, 0]]

def boundless : Script where
  values := [.fixed { status := Registry.moreData }]

theorem messages_asked_once_wordless :
    let session : Session := { client := .native .wide, table := .registry }
    let steps : List Step := [.nameOf none 6, .lookupIndex "System", .closeKey 7]
    let told := (CallError.ofStatus 5).describe "Access is denied."
    let subject : Client.Subject :=
      { source := none, machine := none, object := "a\x00b", detail := 400 }
    let v : Registry.ValueName := { key := 1, name := "Counter" }
    let strings := (Registry.readStrings .windows v).run wordless.system []
    let read := (Registry.readInto .windows v false (.zeroed 3)).run boundless.system []
    AsksMessage 5 ((CallError.explain .windows (.ofStatus 5)).run wordless.system []).exchanges ∧
      ((CallError.explain .windows told).run wordless.system []).value = told ∧
      List.Forall₂ (fun step shown => step.Asks shown.exchanges) steps
        (session.run wordless.system steps) ∧
      ((session.client.nameOf (some "a\x00b") 6).run wordless.system []).Refused ∧
      ((session.client.enumerate subject).run wordless.system []).exchanges = [] ∧
      ((Registry.openForReading .windows Registry.localMachine "a\x00b").run wordless.system
        []).Refused ∧
      AsksMessage 2 (ofKind .messages strings.exchanges) ∧
      AsksMessage 234 (ofKind .messages read.exchanges) := by
  intro session steps told subject v strings read
  obtain ⟨explains, -, sessions, names, -, keys, -, uncalled⟩ :=
    messages_asked_once wordless.system []
  obtain ⟨-, -, -, -, -, -, -, boundless⟩ := messages_asked_once boundless.system []
  refine ⟨(explains (.ofStatus 5)).1 rfl, ((explains told).2.1 (by decide)).2,
    sessions session steps rfl, names _ _ _ (by decide),
    (uncalled _ (.argument "object name" "a\x00b")).2.1 _ _ rfl ?_,
    keys _ _ ['a'] ['b'] (by decide) (by decide), ?_, ?_⟩
  · decide
  · refine ((uncalled _ (.type 1)).2.2.2.2 v ?_).asked (by decide) ?_
    · decide +kernel
    · decide
  · refine ((boundless _ (.limit 134217728)).2.2.2.1 v false _ ?_).asked (by decide) ?_
    · decide +kernel
    · decide

end Session

end CounterCatalog
