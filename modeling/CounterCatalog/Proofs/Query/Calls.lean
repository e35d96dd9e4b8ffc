import CounterCatalog.Proofs.Query.Run
import CounterCatalog.Table.Source

set_option autoImplicit false

namespace CounterCatalog

inductive Call.Kind where
  | counters
  | table
  | messages
  | text
  | registry
  deriving DecidableEq, Repr

def Call.kind : Call → Call.Kind
  | .lookup _ | .enumerate _ | .nativeLookup _ | .nativeEnumerate _ _ => .counters
  | .readTable => .table
  | .findModule _ | .formatMessage _ | .lastError | .freeMessage => .messages
  | .measureAnsi _ | .convertAnsi _ _ => .text
  | .openKey _ _ _ | .closeKey _ | .queryValue _ => .registry

def ofKind (kind : Call.Kind) (es : List Exchange) : List Exchange :=
  es.filter fun e => e.call.kind = kind

@[simp] theorem ofKind_nil (kind : Call.Kind) : ofKind kind [] = [] := rfl

@[simp] theorem ofKind_append (kind : Call.Kind) (es fs : List Exchange) :
    ofKind kind (es ++ fs) = ofKind kind es ++ ofKind kind fs := List.filter_append es fs

theorem ofKind_singleton (e : Exchange) : ofKind e.call.kind [e] = [e] := by
  simp [ofKind]

namespace Query

variable {α β : Type} {allowed : Call → Prop}

/-- The query is put together from calls of an allowed sort, log lines and plain values. -/
inductive Only (allowed : Call → Prop) : {α : Type} → Query α → Prop where
  | pure {α : Type} (value : α) : Only allowed (Pure.pure value : Query α)
  | say (level : Level) (text : String) : Only allowed (Query.say level text)
  | ask {call : Call} (h : allowed call) : Only allowed (Query.ask call)
  | bind {α β : Type} {q : Query α} {next : α → Query β} (first : Only allowed q)
      (rest : ∀ value, Only allowed (next value)) : Only allowed (q >>= next)

theorem Only.allows {q : Query α} (h : Only allowed q) (system : System) (past : List Exchange) :
    ∀ e ∈ (q.run system past).exchanges, allowed e.call := by
  induction h generalizing past with
  | pure | say => exact fun e he => absurd he List.not_mem_nil
  | ask h =>
    intro e he
    rw [run_ask] at he
    rw [List.mem_singleton.mp he]
    exact h
  | bind _ _ first rest =>
    intro e he
    rw [run_bind] at he
    rcases List.mem_append.mp he with here | later
    · exact first past e here
    · exact rest _ _ e later

theorem Only.mono {wider : Call → Prop} {q : Query α} (h : Only allowed q)
    (le : ∀ call, allowed call → wider call) : Only wider q := by
  induction h with
  | pure value => exact .pure value
  | say level text => exact .say level text
  | ask h => exact .ask (le _ h)
  | bind _ _ first rest => exact .bind first rest

theorem Only.ne_of_eq {kind other : Call.Kind} {q : Query α} (h : Only (·.kind = kind) q)
    (ne : kind ≠ other) : Only (·.kind ≠ other) q :=
  h.mono fun _ same => same ▸ ne

theorem Only.answered {q : Query α} (h : Only allowed q) (system : System)
    (past : List Exchange) :
    ∀ e ∈ (q.run system past).exchanges, ∃ earlier, e.reply = system earlier e.call := by
  induction h generalizing past with
  | pure | say => exact fun e he => absurd he List.not_mem_nil
  | ask =>
    intro e he
    rw [run_ask] at he
    rw [List.mem_singleton.mp he]
    exact ⟨past, rfl⟩
  | bind _ _ first rest =>
    intro e he
    rw [run_bind] at he
    rcases List.mem_append.mp he with here | later
    · exact first past e here
    · exact rest _ _ e later

theorem Only.run_congr {q : Query α} (h : Only allowed q) {system other : System}
    (same : ∀ past call, allowed call → system past call = other past call)
    (past : List Exchange) : q.run system past = q.run other past := by
  induction h generalizing past with
  | pure | say => rfl
  | ask h => rw [run_ask, run_ask, same past _ h]
  | bind _ _ first rest => rw [run_bind, run_bind, first past, rest]

theorem Only.run_alike {q : Query α} (h : Only allowed q) {system second : System}
    (same : ∀ past other call, allowed call → system past call = second other call)
    (past other : List Exchange) : q.run system past = q.run second other := by
  induction h generalizing past other with
  | pure | say => rfl
  | ask h => rw [run_ask, run_ask, same past other _ h]
  | @bind _ _ q _ _ _ first rest =>
    rw [run_bind, run_bind, first past other]
    rw [rest _ (past ++ (q.run second other).exchanges) (other ++ (q.run second other).exchanges)]

theorem Only.run_of_memoryless {q : Query α} (h : Only allowed q) {system : System}
    (memoryless : ∀ past other call, system past call = system other call)
    (past other : List Exchange) : q.run system past = q.run system other :=
  h.run_alike (fun past other call _ => memoryless past other call) past other

theorem Only.ofKind_eq_nil {kind : Call.Kind} {q : Query α} (h : Only (·.kind ≠ kind) q)
    (system : System) (past : List Exchange) :
    ofKind kind (q.run system past).exchanges = [] := by
  apply List.filter_eq_nil_iff.mpr
  intro e he
  simpa using h.allows system past e he

theorem ofKind_bind_of_only {kind : Call.Kind} {q : Query α} {next : α → Query β}
    (rest : ∀ value, Only (·.kind ≠ kind) (next value)) (system : System) (past : List Exchange) :
    ofKind kind ((q >>= next).run system past).exchanges =
      ofKind kind (q.run system past).exchanges := by
  rw [run_bind, ofKind_append, (rest _).ofKind_eq_nil, List.append_nil]

end Query

section Messages
variable {p : Platform}

theorem systemMessage_only (status : UInt32) :
    Query.Only (·.kind = .messages) (systemMessage status) := by
  unfold systemMessage
  apply Query.Only.bind (Query.Only.ask (by rfl))
  intro found
  apply Query.Only.bind (Query.Only.ask (by rfl))
  intro units
  split
  · exact Query.Only.bind (Query.Only.ask (by rfl)) fun _ => Query.Only.pure _
  · exact Query.Only.bind (Query.Only.ask (by rfl)) fun _ => Query.Only.pure _

theorem CallError.explain_only (e : CallError) :
    Query.Only (·.kind = .messages) (CallError.explain p e) := by
  unfold CallError.explain
  split
  · exact Query.Only.bind (systemMessage_only _) fun _ => Query.Only.pure _
  · exact Query.Only.pure _

theorem CallError.ofCall_only (status : UInt32) (comment : String) :
    Query.Only (·.kind = .messages) (CallError.ofCall p status comment) :=
  Query.Only.bind (CallError.explain_only _) fun _ => Query.Only.pure _

end Messages

/-- The calls that a reading of text makes: none, but for narrow text on Windows. -/
def Call.readsText (p : Platform) (e : Encoding) (call : Call) : Prop :=
  call.kind = .text ∧ p = .windows ∧ e = .narrow

theorem Call.readsText.ne_counters {p : Platform} {e : Encoding} {call : Call}
    (h : call.readsText p e) : call.kind ≠ .counters := by
  rw [h.1]
  decide

namespace Wire

theorem readUnconverted_only (allowed : Call → Prop) (bytes : List UInt8) :
    Query.Only allowed (readUnconverted bytes) :=
  Query.Only.bind (Query.Only.say _ _) fun _ => Query.Only.pure _

theorem readAnsi_only (bytes : List UInt8) :
    Query.Only (Call.readsText .windows .narrow) (readAnsi bytes) := by
  unfold readAnsi
  apply Query.Only.bind (Query.Only.ask (by exact ⟨rfl, rfl, rfl⟩))
  intro size
  split
  · exact readUnconverted_only _ bytes
  · apply Query.Only.bind (Query.Only.ask (by exact ⟨rfl, rfl, rfl⟩))
    intro units
    split
    · exact readUnconverted_only _ bytes
    · exact Query.Only.pure _

theorem readUnits_only (p : Platform) (e : Encoding) (units : List UInt16) :
    Query.Only (Call.readsText p e) (readUnits p e units) := by
  cases e with
  | wide => exact Query.Only.pure _
  | narrow =>
    cases p with
    | plain => exact Query.Only.pure _
    | windows =>
      change Query.Only _ (if _ then _ else _)
      split
      · exact Query.Only.pure _
      · exact readAnsi_only _

theorem readString_only (p : Platform) (e : Encoding) (bytes : List UInt8) :
    Query.Only (Call.readsText p e) (readString p e bytes) :=
  Query.Only.bind (readUnits_only p e _) fun _ => Query.Only.pure _

theorem readEntries_only (p : Platform) (e : Encoding) (entries : List (List UInt16)) :
    Query.Only (Call.readsText p e) (readEntries p e entries) := by
  induction entries with
  | nil => exact Query.Only.pure _
  | cons entry rest ih =>
    exact Query.Only.bind (readUnits_only p e entry) fun _ =>
      Query.Only.bind ih fun _ => Query.Only.pure _

theorem readList_only (p : Platform) (e : Encoding) (bytes : List UInt8) :
    Query.Only (Call.readsText p e) (readList p e bytes) := readEntries_only p e _

end Wire

def Call.asksCounters (call : Call) : Prop :=
  call.kind = .counters ∨ call.kind = .text ∨ call.kind = .messages

theorem Call.asksCounters.ne_registry {call : Call} (h : call.asksCounters) :
    call.kind ≠ .registry := by
  rcases h with h | h | h <;> rw [h] <;> decide

theorem Call.asksCounters.ne_table {call : Call} (h : call.asksCounters) :
    call.kind ≠ .table := by
  rcases h with h | h | h <;> rw [h] <;> decide

theorem Binding.lookup_counters (b : Binding) (r : LookupRequest String) :
    Query.Only (·.kind = .counters) (b.lookup r) := by
  unfold Binding.lookup
  split
  · exact Query.Only.bind (Query.Only.ask (by rfl)) fun _ => Query.Only.pure _
  · split
    · exact Query.Only.pure _
    · exact Query.Only.bind (Query.Only.ask (by rfl)) fun _ => Query.Only.pure _

theorem Binding.enumerate_counters (b : Binding) (r : EnumerationRequest String) :
    Query.Only (·.kind = .counters) (b.enumerate r) := by
  unfold Binding.enumerate
  split
  · exact Query.Only.bind (Query.Only.ask (by rfl)) fun _ => Query.Only.pure _
  · split
    · exact Query.Only.pure _
    · exact Query.Only.bind (Query.Only.ask (by rfl)) fun _ => Query.Only.pure _

theorem Binding.lookup_only (b : Binding) (r : LookupRequest String) :
    Query.Only Call.asksCounters (b.lookup r) := (b.lookup_counters r).mono fun _ => Or.inl

theorem Binding.enumerate_only (b : Binding) (r : EnumerationRequest String) :
    Query.Only Call.asksCounters (b.enumerate r) := (b.enumerate_counters r).mono fun _ => Or.inl

namespace Client

variable (c : Client)

theorem fail_only {α : Type} (status : UInt32) (comment : String) :
    Query.Only (·.kind = .messages) (c.fail status comment : Query (Except CallError α)) :=
  Query.Only.bind (CallError.ofCall_only status comment) fun _ => Query.Only.pure _

theorem fail_asksCounters {α : Type} (status : UInt32) (comment : String) :
    Query.Only Call.asksCounters (c.fail status comment : Query (Except CallError α)) :=
  (c.fail_only status comment).mono fun _ messages => .inr (.inr messages)

theorem fetchName_only (machine : Option String) (index size : UInt32) :
    Query.Only Call.asksCounters (c.fetchName machine index size) := by
  unfold fetchName
  apply Query.Only.bind (c.binding.lookup_only _)
  intro fetch
  apply Query.Only.bind (Query.Only.say _ _)
  intro _
  split
  · exact Query.Only.bind ((Wire.readString_only _ _ _).mono fun _ h => .inr (.inl h.1))
      fun _ => Query.Only.pure _
  · exact c.fail_asksCounters _ _

theorem nameOf_only (machine : Option String) (index : UInt32) :
    Query.Only Call.asksCounters (c.nameOf machine index) := by
  unfold nameOf
  split
  · exact Query.Only.pure _
  · apply Query.Only.bind (c.binding.lookup_only _)
    intro probe
    apply Query.Only.bind (Query.Only.say _ _)
    intro _
    split
    · split
      · exact Query.Only.bind (Query.Only.say _ _) fun _ => Query.Only.pure _
      · exact c.fetchName_only machine index _
    · exact c.fail_asksCounters _ _

theorem fetchItems_only (s : Subject) (counters instances : UInt32) :
    Query.Only Call.asksCounters (c.fetchItems s counters instances) := by
  have read : ∀ bytes, Query.Only Call.asksCounters (Wire.readList c.platform c.encoding bytes) :=
    fun bytes => (Wire.readList_only _ _ bytes).mono fun _ h => .inr (.inl h.1)
  unfold fetchItems
  apply Query.Only.bind (c.binding.enumerate_only _)
  intro fetch
  apply Query.Only.bind (Query.Only.say _ _)
  intro _
  split
  · exact Query.Only.bind (read _) fun _ => Query.Only.bind (read _) fun _ => Query.Only.pure _
  · exact c.fail_asksCounters _ _

theorem enumerate_only (s : Subject) : Query.Only Call.asksCounters (c.enumerate s) := by
  unfold enumerate
  split
  · exact Query.Only.pure _
  · apply Query.Only.bind (c.binding.enumerate_only _)
    intro probe
    apply Query.Only.bind (Query.Only.say _ _)
    intro _
    split
    · split
      · exact Query.Only.bind (Query.Only.say _ _) fun _ => c.fetchItems_only s _ _
      · exact c.fetchItems_only s _ _
    · exact c.fail_asksCounters _ _

end Client

def Call.readsRegistry (call : Call) : Prop := call.kind = .registry ∨ call.kind = .messages

theorem Call.readsRegistry.ne_counters {call : Call} (h : call.readsRegistry) :
    call.kind ≠ .counters := by
  rcases h with registry | messages
  · rw [registry]
    decide
  · rw [messages]
    decide

/-- The calls that a read of one value makes: queries of that value, and for messages. -/
def Call.readsValue (v : Registry.ValueName) (call : Call) : Prop :=
  (∃ r : ValueRequest, call = .queryValue r ∧ r.handle = v.key ∧ r.name = Text.beforeNul v.name) ∨
    call.kind = .messages

theorem Call.readsValue.readsRegistry {v : Registry.ValueName} {call : Call}
    (h : call.readsValue v) : call.readsRegistry := by
  rcases h with ⟨r, rfl, -, -⟩ | messages
  · exact .inl rfl
  · exact .inr messages

section Registry
variable {p : Platform}

theorem CallError.ofCall_readsRegistry (status : UInt32) (comment : String) :
    Query.Only Call.readsRegistry (CallError.ofCall p status comment) :=
  (CallError.ofCall_only status comment).mono fun _ => Or.inr

theorem CallError.ofCall_readsValue (v : Registry.ValueName) (status : UInt32)
    (comment : String) : Query.Only (Call.readsValue v) (CallError.ofCall p status comment) :=
  (CallError.ofCall_only status comment).mono fun _ => Or.inr

namespace Registry

theorem openForReading_only (parent : Int) (key : String) :
    Query.Only Call.readsRegistry (openForReading p parent key) := by
  unfold openForReading
  split
  · apply Query.Only.bind (Query.Only.ask (by exact Or.inl rfl))
    intro reply
    split
    · exact Query.Only.pure _
    · exact Query.Only.bind (CallError.ofCall_readsRegistry _ _) fun _ => Query.Only.pure _
  · exact Query.Only.pure _

theorem close_only (handle : Int) : Query.Only Call.readsRegistry (close p handle) := by
  unfold close
  apply Query.Only.bind (Query.Only.ask (by exact Or.inl rfl))
  intro status
  split
  · exact Query.Only.pure _
  · exact Query.Only.bind (CallError.ofCall_readsRegistry _ _) fun _ => Query.Only.pure _

theorem releaseKey_only (handle : Int) :
    Query.Only Call.readsRegistry (releaseKey p handle) := by
  unfold releaseKey
  apply Query.Only.bind (close_only handle)
  intro result
  cases result with
  | ok _ => exact Query.Only.pure _
  | error _ => exact Query.Only.say _ _

theorem tryKey_only (parent : Int) (key : String) :
    Query.Only Call.readsRegistry (tryKey p parent key) := by
  unfold tryKey
  apply Query.Only.bind (openForReading_only parent key)
  intro result
  cases result with
  | error _ => exact Query.Only.pure _
  | ok handle => exact Query.Only.bind (releaseKey_only handle) fun _ => Query.Only.pure _

theorem sizeHint_only (v : ValueName) : Query.Only (Call.readsValue v) (sizeHint p v) := by
  unfold sizeHint
  apply Query.Only.bind (Query.Only.ask (by exact Or.inl ⟨_, rfl, rfl, rfl⟩))
  intro reply
  split
  · exact Query.Only.pure _
  · exact Query.Only.bind (CallError.ofCall_readsValue v _ _) fun _ => Query.Only.pure _

theorem startSize_only (v : ValueName) : Query.Only (Call.readsValue v) (startSize p v) := by
  unfold startSize
  apply Query.Only.bind (sizeHint_only v)
  intro hint
  cases hint with
  | ok size =>
    dsimp only
    split
    · exact Query.Only.pure _
    · exact Query.Only.pure _
  | error _ => exact Query.Only.bind (Query.Only.say _ _) fun _ => Query.Only.pure _

theorem exchanges_startSize (v : ValueName) (system : System) (past : List Exchange) :
    ((startSize p v).run system past).exchanges =
      ((sizeHint p v).run system past).exchanges := by
  rw [startSize, Query.exchanges_bind]
  split
  · split <;> exact List.append_nil _
  · exact List.append_nil _

theorem readGrowing_only (v : ValueName) (wantsType : Bool) (type : UInt32) (buffer : Buffer)
    (positive : 0 < buffer.length) :
    Query.Only (Call.readsValue v) (readGrowing p v wantsType type buffer positive) := by
  induction type, buffer, positive using readGrowing.induct v wantsType with
  | case1 type buffer positive ih =>
    rw [readGrowing]
    apply Query.Only.bind (Query.Only.ask (by exact Or.inl ⟨_, rfl, rfl, rfl⟩))
    intro reply
    dsimp only
    split
    · split
      · next within =>
        apply Query.Only.bind (Query.Only.say _ _)
        intro _
        exact ih reply within
      · exact Query.Only.pure _
    · split
      · exact Query.Only.pure _
      · exact Query.Only.bind (CallError.ofCall_readsValue v _ _) fun _ => Query.Only.pure _

theorem readInto_only (v : ValueName) (wantsType : Bool) (buffer : Buffer) :
    Query.Only (Call.readsValue v) (readInto p v wantsType buffer) := by
  unfold readInto
  split
  · exact Query.Only.bind (startSize_only v) fun size => readGrowing_only v _ _ _ _
  · exact Query.Only.pure _

theorem readValue_only (v : ValueName) (wantsType : Bool) :
    Query.Only (Call.readsValue v) (readValue p v wantsType) :=
  Query.Only.bind (readInto_only v wantsType _) fun _ => Query.Only.pure _

theorem readStrings_only (v : ValueName) :
    Query.Only (Call.readsValue v) (readStrings p v) := by
  unfold readStrings
  apply Query.Only.bind (readValue_only v true)
  intro result
  cases result with
  | error _ => exact Query.Only.pure _
  | ok found =>
    dsimp only
    split
    · exact Query.Only.pure _
    · exact Query.Only.pure _

theorem exchanges_readStrings (v : ValueName) (system : System) (past : List Exchange) :
    ((readStrings p v).run system past).exchanges =
      ((readInto p v true (.zeroed 0)).run system past).exchanges := by
  rw [readStrings, Query.exchanges_bind, readValue, Query.exchanges_map]
  split
  · exact List.append_nil _
  · dsimp only
    split <;> exact List.append_nil _

end Registry

namespace Table

theorem readEnglish_only : Query.Only Call.readsRegistry (readEnglish p) := by
  unfold readEnglish
  apply Query.Only.bind (Registry.openForReading_only _ _)
  intro result
  cases result with
  | error _ => exact Query.Only.pure _
  | ok handle =>
    apply Query.Only.bind
      ((Registry.readStrings_only _).mono fun _ => Call.readsValue.readsRegistry)
    intro strings
    exact Query.Only.bind (Registry.releaseKey_only handle) fun _ => Query.Only.pure _

theorem Source.read_only (s : Source) : Query.Only (·.kind ≠ .counters) (s.read p) := by
  cases s with
  | listed _ => exact Query.Only.pure _
  | failing _ => exact Query.Only.pure _
  | provided => exact Query.Only.bind (Query.Only.ask (by decide)) fun _ => Query.Only.pure _
  | registry => exact readEnglish_only.mono fun _ => Call.readsRegistry.ne_counters

theorem findIndex_only (allowed : Call → Prop) (table : List String) (name : String) :
    Query.Only allowed (findIndex table name) := by
  unfold findIndex
  split
  · exact Query.Only.bind (Query.Only.say _ _) fun _ => Query.Only.pure _
  · exact Query.Only.bind (Query.Only.pure _) fun _ => Query.Only.pure _

theorem Source.lookupIndex_only (s : Source) (name : String) :
    Query.Only (·.kind ≠ .counters) (s.lookupIndex p name) := by
  unfold Source.lookupIndex
  apply Query.Only.bind s.read_only
  intro result
  cases result with
  | ok table => exact findIndex_only _ table name
  | error _ => exact Query.Only.bind (Query.Only.say _ _) fun _ => Query.Only.pure _

theorem Source.exchanges_lookupIndex (s : Source) (name : String) (system : System)
    (past : List Exchange) :
    ((s.lookupIndex p name).run system past).exchanges =
      ((s.read p).run system past).exchanges := by
  rw [Source.lookupIndex, Query.exchanges_bind]
  cases ((s.read p).run system past).value with
  | ok table =>
    dsimp only
    unfold findIndex
    split
    · exact List.append_nil _
    · exact List.append_nil _
  | error error => exact List.append_nil _

end Table

theorem Client.ofKind_localizedName_of_ne (c : Client) {kind : Call.Kind}
    (ne : ∀ call : Call, call.asksCounters → call.kind ≠ kind) (source : Table.Source)
    (machine : Option String) (name : String) (system : System) (past : List Exchange) :
    ofKind kind ((c.localizedName source machine name).run system past).exchanges =
      ofKind kind ((source.read c.platform).run system past).exchanges := by
  rw [localizedName, Query.ofKind_bind_of_only, source.exchanges_lookupIndex]
  intro index
  split
  · exact Query.Only.pure _
  · exact Query.Only.bind ((c.nameOf_only machine index).mono ne) fun _ => Query.Only.pure _

end Registry

end CounterCatalog
