import CounterCatalog.Proofs.CallError.Alike
import CounterCatalog.Proofs.Counter.Reply

set_option autoImplicit false

namespace CounterCatalog

open Query

namespace Exchange

def nameUnits : Exchange → List UInt16
  | ⟨.lookup r, reply⟩ =>
    Wire.stringUnits (r.encoding.units (r.name.receive reply.name).content)
  | ⟨.nativeLookup r, reply⟩ =>
    Wire.stringUnits (r.encoding.units (r.name.receive reply.name).content)
  | _ => []

def counterEntries : Exchange → List (List UInt16)
  | ⟨.enumerate r, reply⟩ =>
    Wire.entries (r.encoding.units (r.counters.receive reply.counters).content)
  | ⟨.nativeEnumerate r _, reply⟩ =>
    Wire.entries (r.encoding.units (r.counters.receive reply.counters).content)
  | _ => []

def instanceEntries : Exchange → List (List UInt16)
  | ⟨.enumerate r, reply⟩ =>
    Wire.entries (r.encoding.units (r.instances.receive reply.instances).content)
  | ⟨.nativeEnumerate r _, reply⟩ =>
    Wire.entries (r.encoding.units (r.instances.receive reply.instances).content)
  | _ => []

end Exchange

section Bindings
variable (b : Binding)

@[simp] theorem kind_lookupExchange (r : LookupRequest String) (reply : LookupReply) :
    (b.lookupExchange r reply).call.kind = .counters := by
  cases b <;> rfl

@[simp] theorem status?_lookupExchange (r : LookupRequest String) (reply : LookupReply) :
    (b.lookupExchange r reply).status? = some reply.status := by
  cases b <;> rfl

@[simp] theorem nameUnits_lookupExchange (r : LookupRequest String) (reply : LookupReply) :
    (b.lookupExchange r reply).nameUnits =
      Wire.stringUnits (r.encoding.units (r.name.receive reply.name).content) := by
  cases b <;> rfl

@[simp] theorem kind_enumerateExchange (r : EnumerationRequest String)
    (reply : EnumerationReply) : (b.enumerateExchange r reply).call.kind = .counters := by
  cases b <;> rfl

@[simp] theorem status?_enumerateExchange (r : EnumerationRequest String)
    (reply : EnumerationReply) : (b.enumerateExchange r reply).status? = some reply.status := by
  cases b <;> rfl

@[simp] theorem counterEntries_enumerateExchange (r : EnumerationRequest String)
    (reply : EnumerationReply) :
    (b.enumerateExchange r reply).counterEntries =
      Wire.entries (r.encoding.units (r.counters.receive reply.counters).content) := by
  cases b <;> rfl

@[simp] theorem instanceEntries_enumerateExchange (r : EnumerationRequest String)
    (reply : EnumerationReply) :
    (b.enumerateExchange r reply).instanceEntries =
      Wire.entries (r.encoding.units (r.instances.receive reply.instances).content) := by
  cases b <;> rfl

end Bindings

/-- How two texts compare that were read from the same units. -/
abbrev TextRelation := List UInt16 → String → String → Prop

section Texts
variable (T : TextRelation)

inductive TextsAlike : List (List UInt16) → List String → List String → Prop where
  | nil : TextsAlike [] [] []
  | cons {units : List UInt16} {text other : String} {entries : List (List UInt16)}
      {texts others : List String} (here : T units text other)
      (rest : TextsAlike entries texts others) :
      TextsAlike (units :: entries) (text :: texts) (other :: others)

def NameAlike (es : List Exchange) (name other : String) : Prop :=
  ∃ x, (ofKind .counters es).getLast? = some x ∧ T x.nameUnits name other

def ItemsAlike (es : List Exchange) (items other : Inventory) : Prop :=
  ∃ x, (ofKind .counters es).getLast? = some x ∧
    TextsAlike T x.counterEntries items.counters other.counters ∧
    TextsAlike T x.instanceEntries items.instances other.instances

end Texts

theorem TextsAlike.eq {entries : List (List UInt16)} {texts others : List String}
    (h : TextsAlike (fun _ => Eq) entries texts others) : texts = others := by
  induction h with
  | nil => rfl
  | cons here _ ih => rw [here, ih]

theorem NameAlike.eq {es : List Exchange} {name other : String}
    (h : NameAlike (fun _ => Eq) es name other) : name = other := by
  obtain ⟨x, -, same⟩ := h
  exact same

theorem ItemsAlike.eq {es : List Exchange} {items other : Inventory}
    (h : ItemsAlike (fun _ => Eq) es items other) : items = other := by
  obtain ⟨x, -, counters, instances⟩ := h
  exact congrArg₂ Inventory.mk counters.eq instances.eq

theorem TextsAlike.length {T : TextRelation} {entries : List (List UInt16)}
    {texts others : List String} (h : TextsAlike T entries texts others) :
    texts.length = entries.length ∧ others.length = entries.length := by
  induction h with
  | nil => exact ⟨rfl, rfl⟩
  | cons _ _ ih =>
    obtain ⟨texts, others⟩ := ih
    exact ⟨congrArg (· + 1) texts, congrArg (· + 1) others⟩

theorem ItemsAlike.lengths {T : TextRelation} {es : List Exchange} {items other : Inventory}
    (h : ItemsAlike T es items other) : items.counters.length = other.counters.length ∧
      items.instances.length = other.instances.length ∧ ItemsAlike T es items other := by
  obtain ⟨x, last, counters, instances⟩ := h
  exact ⟨counters.length.1.trans counters.length.2.symm,
    instances.length.1.trans instances.length.2.symm, x, last, counters, instances⟩

theorem getLast?_counters {x : Exchange} {es : List Exchange} (kind : x.call.kind = .counters)
    (rest : ofKind .counters es = []) : (ofKind .counters (x :: es)).getLast? = some x := by
  have own := ofKind_singleton x
  rw [kind] at own
  rw [← List.singleton_append, ofKind_append, rest, own]
  rfl

section Append
variable {T : TextRelation} {fs : List Exchange} (es : List Exchange)

theorem getLast?_ofKind_append {x : Exchange} (h : (ofKind .counters fs).getLast? = some x) :
    (ofKind .counters (es ++ fs)).getLast? = some x := by
  rw [ofKind_append, List.getLast?_append, h]
  rfl

theorem NameAlike.append {name other : String} (h : NameAlike T fs name other) :
    NameAlike T (es ++ fs) name other := by
  obtain ⟨x, last, texts⟩ := h
  exact ⟨x, getLast?_ofKind_append es last, texts⟩

theorem ItemsAlike.append {items other : Inventory} (h : ItemsAlike T fs items other) :
    ItemsAlike T (es ++ fs) items other := by
  obtain ⟨x, last, texts⟩ := h
  exact ⟨x, getLast?_ofKind_append es last, texts⟩

end Append

structure View.OfCounters (v : View) : Prop where
  counters : ∀ call : Call, call.kind = .counters → v.call call = true
  hides : v.HidesMessages

/-- Text is read from the same units on both platforms so that the relation holds. -/
structure TextRelation.Read (T : TextRelation) (v : View) (first second : System)
    (p q : Platform) (e : Encoding) : Prop where
  empty : T [] "" ""
  units : ∀ units, Agree v first second (fun _ => T units) (Wire.readUnits p e units)
    (Wire.readUnits q e units)

theorem ofKind_counters_of_text {p : Platform} {e : Encoding} {es : List Exchange}
    (h : ∀ x ∈ es, x.call.readsText p e) : ofKind .counters es = [] := by
  apply List.filter_eq_nil_iff.mpr
  intro x hx
  simpa using (h x hx).ne_counters

section Readings
variable {v : View} {first second : System} {T : TextRelation} {p q : Platform} {e : Encoding}
  (read : T.Read v first second p q e)
include read

theorem TextRelation.Read.string (bytes : List UInt8) :
    Agree v first second
      (fun es text other => T (Wire.stringUnits (e.units bytes)) text.1 other.1 ∧
        ofKind .counters es = [])
      (Wire.readString p e bytes) (Wire.readString q e bytes) := by
  have texts : Agree v first second
      (fun _ text other => T (Wire.stringUnits (e.units bytes)) text.1 other.1)
      (Wire.readString p e bytes) (Wire.readString q e bytes) :=
    (read.units _).map fun _ _ _ h => h
  refine (texts.allows (Wire.readString_only p e bytes)).mono fun es _ _ h => ⟨h.1, ?_⟩
  exact ofKind_counters_of_text h.2

theorem TextRelation.Read.entries (entries : List (List UInt16)) :
    Agree v first second (fun _ => TextsAlike T entries) (Wire.readEntries p e entries)
      (Wire.readEntries q e entries) := by
  induction entries with
  | nil => exact .pure .nil
  | cons units entries ih =>
    exact (read.units units).bind fun _ _ _ here => ih.map fun _ _ _ rest => .cons here rest

theorem TextRelation.Read.list (bytes : List UInt8) :
    Agree v first second
      (fun es texts others => TextsAlike T (Wire.entries (e.units bytes)) texts others ∧
        ofKind .counters es = [])
      (Wire.readList p e bytes) (Wire.readList q e bytes) :=
  ((read.entries _).allows (Wire.readList_only p e bytes)).mono fun _ _ _ h =>
    ⟨h.1, ofKind_counters_of_text h.2⟩

end Readings

namespace Client

theorem message_error? {a : Argument} {error : CallError} (h : a.error? = some error) :
    error.message = none := by
  unfold Argument.error? at h
  split at h
  · split at h
    · cases h
      rfl
    · cases h
  · cases h

theorem Subject.message_error? {s : Subject} {error : CallError} (h : s.error? = some error) :
    error.message = none := by
  obtain ⟨argument, -, own⟩ := List.exists_of_findSome?_eq_some h
  exact Client.message_error? own

section Asking
variable {v : View} {first second : System} (view : v.OfCounters)
  (agree : System.Agree v first second) (c : Client) (q : Platform)

def on (c : Client) (q : Platform) : Client := { c with platform := q }

include view

theorem agree_fail {α β : Type} (R : List Exchange → α → β → Prop) {es : List Exchange}
    {x : Exchange} {status : UInt32} (member : x ∈ es) (own : x.status? = some status)
    (comment : String) :
    Agree v first second (fun fs => ResultsAlike (R fs) (es ++ fs))
      (c.fail status comment : Query (Except CallError α))
      ((c.on q).fail status comment : Query (Except CallError β)) :=
  CallError.agree_failed view.hides c.platform q R member own comment

include agree

theorem agree_askName {machine : Option String} (plain : ∀ s ∈ machine, Text.hasNul s = false)
    (index : UInt32) {slot : Slot} (fresh : slot.Fresh c.encoding) :
    Agree v first second
      (fun es outcome other => outcome = other ∧ ∃ x, es = [x] ∧ x.call.kind = .counters ∧
        x.status? = some outcome.status ∧
        x.nameUnits = Wire.stringUnits (c.encoding.units outcome.name.content) ∧
        (slot = .probe → x.nameUnits = []))
      (c.askName machine index slot) ((c.on q).askName machine index slot) := by
  intro past other alike
  have reply : c.nameReply machine index slot first past =
      c.nameReply machine index slot second other := by
    cases h : c.binding with
    | direct =>
      rw [nameReply, nameReply, h]
      exact agree past other alike _ (view.counters _ rfl)
    | native =>
      rw [nameReply, nameReply, h]
      exact agree past other alike _ (view.counters _ rfl)
  change ((c.askName machine index slot).run first past).Agree v _
    ((c.askName machine index slot).run second other)
  rw [c.run_askName index plain first past fresh, c.run_askName index plain second other fresh,
    nameExchange, nameExchange, ← reply]
  refine ⟨rfl, rfl, rfl, _, v.exchanges_singleton (view.counters _ (by simp)), by simp, by simp,
    nameUnits_lookupExchange _ _ _, ?_⟩
  -- Without a buffer there is nothing to read.
  rintro rfl
  rw [nameUnits_lookupExchange]
  change Wire.stringUnits (c.encoding.units []) = []
  rw [Encoding.units_nil]
  rfl

theorem agree_askItems {s : Subject} (plain : s.Plain) {counters instances : Slot}
    (freshCounters : counters.Fresh c.encoding) (freshInstances : instances.Fresh c.encoding) :
    Agree v first second
      (fun es outcome other => outcome = other ∧ ∃ x, es = [x] ∧ x.call.kind = .counters ∧
        x.status? = some outcome.status ∧
        x.counterEntries = Wire.entries (c.encoding.units outcome.counters.content) ∧
        x.instanceEntries = Wire.entries (c.encoding.units outcome.instances.content))
      (c.askItems s counters instances) ((c.on q).askItems s counters instances) := by
  intro past other alike
  have reply : c.itemsReply s counters instances first past =
      c.itemsReply s counters instances second other := by
    cases h : c.binding with
    | direct =>
      rw [itemsReply, itemsReply, h]
      exact agree past other alike _ (view.counters _ rfl)
    | native =>
      rw [itemsReply, itemsReply, h]
      exact agree past other alike _ (view.counters _ rfl)
  change ((c.askItems s counters instances).run first past).Agree v _
    ((c.askItems s counters instances).run second other)
  rw [c.run_askItems plain first past freshCounters freshInstances,
    c.run_askItems plain second other freshCounters freshInstances, itemsExchange, itemsExchange,
    ← reply]
  refine ⟨rfl, rfl, rfl, _, v.exchanges_singleton (view.counters _ (by simp)), ?_⟩
  simp [itemsRequest]

section Names
variable {T : TextRelation} (read : T.Read v first second c.platform q c.encoding)
  {machine : Option String} (plain : ∀ s ∈ machine, Text.hasNul s = false) (index : UInt32)
include read plain

theorem agree_fetchName (size : UInt32) :
    Agree v first second (fun es => ResultsAlike (NameAlike T es) es)
      (c.fetchName machine index size) ((c.on q).fetchName machine index size) := by
  refine (agree_askName view agree c q plain index (.allocate size)).bind ?_
  rintro _ fetch _ ⟨rfl, x, rfl, kind, status, units, -⟩
  refine .said rfl (.ite (fun _ => ?_) fun _ => ?_)
  · refine (read.string _).map ?_
    rintro es text other ⟨alike, quiet⟩
    refine .ok ⟨x, getLast?_counters kind quiet, ?_⟩
    rw [units]
    exact alike
  · exact agree_fail view c q _ List.mem_cons_self status _

theorem agree_findName :
    Agree v first second (fun es => ResultsAlike (NameAlike T es) es)
      (c.findName machine index) ((c.on q).findName machine index) := by
  refine (agree_askName view agree c q plain index .probe).bind ?_
  rintro _ probe _ ⟨rfl, x, rfl, kind, status, -, empty⟩
  refine .said rfl (.ite (fun _ => .ite (fun _ => ?_) fun _ => ?_) fun _ => ?_)
  · refine .said rfl (.pure (.ok ⟨x, getLast?_counters kind rfl, ?_⟩))
    rw [empty rfl]
    exact read.empty
  · refine (agree_fetchName view agree c q read plain index _).mono fun es value other alike => ?_
    exact alike.mono (fun _ _ => NameAlike.append [x]) fun _ => List.mem_append_right [x]
  · exact agree_fail view c q _ List.mem_cons_self status _

end Names

theorem agree_nameOf {T : TextRelation} (read : T.Read v first second c.platform q c.encoding)
    (machine : Option String) (index : UInt32) :
    Agree v first second (fun es => ResultsAlike (NameAlike T es) es)
      (c.nameOf machine index) ((c.on q).nameOf machine index) := by
  have refused := error?_eq_none_iff ⟨"machine name", machine⟩
  cases found : Argument.error? ⟨"machine name", machine⟩ with
  | some error =>
    rw [nameOf, nameOf, found]
    exact .pure (.error (.same (message_error? found)))
  | none =>
    have plain := refused.mp found
    rw [nameOf_of_plain _ plain, nameOf_of_plain _ plain]
    exact agree_findName view agree c q read plain index

section Items
variable {T : TextRelation} (read : T.Read v first second c.platform q c.encoding) {s : Subject}
  (plain : s.Plain)
include read plain

theorem agree_fetchItems (counters instances : UInt32) :
    Agree v first second (fun es => ResultsAlike (ItemsAlike T es) es)
      (c.fetchItems s counters instances) ((c.on q).fetchItems s counters instances) := by
  refine (agree_askItems view agree c q plain (Slot.fresh_listSlot _ counters)
    (Slot.fresh_listSlot _ instances)).bind ?_
  rintro _ fetch _ ⟨rfl, x, rfl, kind, status, counterUnits, instanceUnits⟩
  refine .said rfl (.ite (fun _ => ?_) fun _ => ?_)
  · refine (read.list _).bind ?_
    rintro es counterTexts otherCounters ⟨countersAlike, countersQuiet⟩
    refine (read.list _).map ?_
    rintro fs instanceTexts otherInstances ⟨instancesAlike, instancesQuiet⟩
    refine .ok ⟨x, getLast?_counters kind ?_, ?_, ?_⟩
    · change ofKind .counters (es ++ fs) = []
      rw [ofKind_append, countersQuiet, instancesQuiet]
      rfl
    · rw [counterUnits]
      exact countersAlike
    · rw [instanceUnits]
      exact instancesAlike
  · exact agree_fail view c q _ List.mem_cons_self status _

theorem agree_findItems :
    Agree v first second (fun es => ResultsAlike (ItemsAlike T es) es)
      (c.findItems s) ((c.on q).findItems s) := by
  have fetched : ∀ (x : Exchange) counters instances,
      Agree v first second
        (fun es => ResultsAlike (ItemsAlike T ([x] ++ es)) ([x] ++ es))
        (c.fetchItems s counters instances) ((c.on q).fetchItems s counters instances) :=
    fun x counters instances =>
      (agree_fetchItems view agree c q read plain counters instances).mono fun _ _ _ alike =>
        alike.mono (fun _ _ => ItemsAlike.append [x]) fun _ => List.mem_append_right [x]
  refine (agree_askItems view agree c q plain .probe .probe).bind ?_
  rintro _ probe _ ⟨rfl, x, rfl, kind, status, -⟩
  refine .said rfl (.ite (fun _ => .ite (fun _ => ?_) fun _ => ?_) fun _ => ?_)
  · exact .said rfl (fetched x _ _)
  · exact fetched x _ _
  · exact agree_fail view c q _ List.mem_cons_self status _

end Items

theorem agree_enumerate {T : TextRelation} (read : T.Read v first second c.platform q c.encoding)
    (s : Subject) :
    Agree v first second (fun es => ResultsAlike (ItemsAlike T es) es)
      (c.enumerate s) ((c.on q).enumerate s) := by
  cases found : s.error? with
  | some error =>
    rw [enumerate, enumerate, found]
    exact .pure (.error (.same (Subject.message_error? found)))
  | none =>
    have plain := s.error?_eq_none_iff.mp found
    rw [enumerate_of_plain _ plain, enumerate_of_plain _ plain]
    exact agree_findItems view agree c q read plain

end Asking

end Client

end CounterCatalog
