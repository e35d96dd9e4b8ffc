import CounterCatalog.Proofs.Session.TwoCalls
import CounterCatalog.Proofs.Wire.Texts

set_option autoImplicit false

namespace CounterCatalog

open Query

def Exchange.Gives (e : Exchange) (name : List UInt8) : Prop :=
  ∃ request reply buffer, e = .nativeLookup request reply ∧ request.name.buffer = some buffer ∧
    name ++ [0] <+: (buffer.write reply.name.data).toList

def nativeEnumerations (es : List Exchange) : List (EnumerationRequest (List UInt8)) :=
  es.filterMap fun e =>
    match e.call with
    | .nativeEnumerate request _ => some request
    | _ => none

theorem Exchange.not_gives_of_probe {request : LookupRequest (List UInt8)}
    (probe : request.name = .probe) (reply : LookupReply) (name : List UInt8) :
    ¬ (nativeLookup request reply).Gives name := by
  rintro ⟨request', reply', buffer, same, some, -⟩
  cases same
  rw [probe] at some
  cases some

theorem Exchange.Gives.kind {e : Exchange} {name : List UInt8} (h : e.Gives name) :
    e.call.kind = .counters := by
  obtain ⟨request, reply, buffer, rfl, -, -⟩ := h
  rfl

theorem mem_ofKind {kind : Call.Kind} {es : List Exchange} {e : Exchange} :
    e ∈ ofKind kind es ↔ e ∈ es ∧ e.call.kind = kind := by
  simp [ofKind]

namespace Client

variable {system : System} {machine : Option String} {passed : Option (List UInt8)}
  {index : UInt32} {past : List Exchange} {name : List UInt8} {text : String}

theorem decode_of_fetchName (ansi : system.Ansi1252) (free : 0 ∉ name)
    (lent : Encoding.narrow.optionalArgument? machine = some passed) (size : UInt32)
    (given : ∃ e ∈ (((native .narrow).fetchName machine index size).run system past).exchanges,
      e.Gives name)
    (read : (((native .narrow).fetchName machine index size).run system past).value = .ok text) :
    text = Text.CodePage.decode name := by
  have ran := (native .narrow).run_askName_native rfl lent index
    (Slot.lend_allocate .narrow size) system past
  dsimp only at ran
  -- The reading of the text behind the call gives no names.
  obtain ⟨e, member, gives⟩ := given
  have called := mem_ofKind.mpr ⟨member, gives.kind⟩
  change e ∈ ofKind .counters _ at called
  rw [ofKind_fetchName_ask] at called
  have own := (mem_ofKind.mp called).1
  change e ∈ ((askName (native .narrow) machine index (.allocate .narrow size)).run
    system past).exchanges at own
  rw [ran, List.mem_singleton] at own
  obtain ⟨request, reply, buffer, rfl, room, written⟩ := gives
  cases own
  cases room
  rw [fetchName, value_bind, trace, value_say_bind] at read
  split at read
  · rw [value_map] at read
    have shown := Except.ok.inj read
    change ((Wire.readString .windows .narrow ((askName (native .narrow) machine index
      (.allocate .narrow size)).run system past).value.name.content).run _ _).value.1 = _ at shown
    have content : ((askName (native .narrow) machine index (.allocate .narrow size)).run
        system past).value.name.content =
        ((Buffer.zeroed (Encoding.narrow.byteLength size)).write (system past (.nativeLookup
          { encoding := .narrow, machine := passed, index
            name := .allocate .narrow size })).name.data).content := by
      rw [ran]
      rfl
    rw [content] at shown
    exact shown.symm.trans (Wire.value_readString_of_ansi ansi free written _)
  · rw [fail, value_map] at read
    cases read

theorem decode_of_nameOf (ansi : system.Ansi1252) (free : 0 ∉ name)
    (given : ∃ e ∈ (((native .narrow).nameOf machine index).run system past).exchanges,
      e.Gives name)
    (read : (((native .narrow).nameOf machine index).run system past).value = .ok text) :
    text = Text.CodePage.decode name := by
  have refused := error?_eq_none_iff ⟨"machine name", machine⟩
  by_cases plain : ∀ s ∈ machine, Text.hasNul s = false
  · obtain ⟨passed, lent, -⟩ := Encoding.narrow.optionalArgument?_of_not_hasNul plain
    have ran := (native .narrow).run_askName_native rfl lent index
      (Slot.lend_probe .narrow) system past
    rw [nameOf_of_plain _ plain, findName] at given read
    rw [value_bind, ran, trace, value_say_bind] at read
    rw [exchanges_bind, ran, trace, exchanges_say_bind] at given
    obtain ⟨e, member, gives⟩ := given
    -- The probe has no buffer to put a name in.
    have later := (List.mem_append.mp member).resolve_left fun own => by
      rw [List.mem_singleton] at own
      exact Exchange.not_gives_of_probe rfl _ name (own ▸ gives)
    split at read
    · next good =>
      rw [if_pos good] at later
      split at read
      · next none =>
        rw [if_pos none] at later
        cases later
      · next some =>
        rw [if_neg some] at later
        exact decode_of_fetchName ansi free lent _ ⟨e, later, gives⟩ read
    · rw [fail, value_map] at read
      cases read
  · cases found : Argument.error? ⟨"machine name", machine⟩ with
    | none => exact absurd (refused.mp found) plain
    | some error =>
      rw [nameOf, found] at read
      cases read

end Client

theorem nativeEnumerations_ofKind (es : List Exchange) :
    nativeEnumerations (ofKind .counters es) = nativeEnumerations es := by
  rw [nativeEnumerations, ofKind, List.filterMap_filter, nativeEnumerations]
  congr 1
  funext e
  obtain ⟨call, reply⟩ := e
  cases call <;> rfl

theorem ItemsNegotiation.nativeEnumerations_ne_nil {probe : EnumerationRequest (List UInt8)}
    {es : List Exchange} (h : ItemsNegotiation Exchange.nativeEnumerate probe es) :
    nativeEnumerations es ≠ [] := by
  cases h <;> simp [nativeEnumerations, Exchange.nativeEnumerate]

theorem ItemsNegotiation.passed {probe : EnumerationRequest (List UInt8)} {es : List Exchange}
    (h : ItemsNegotiation Exchange.nativeEnumerate probe es) :
    ∀ r ∈ nativeEnumerations es, r.object = probe.object ∧ r.machine = probe.machine := by
  cases h with
  | settled reply stop =>
    intro r hr
    cases List.mem_singleton.mp hr
    exact ⟨rfl, rfl⟩
  | fetched reply last counters instances =>
    intro r hr
    rcases List.mem_cons.mp hr with rfl | hr
    · exact ⟨rfl, rfl⟩
    · cases List.mem_singleton.mp hr
      exact ⟨rfl, rfl⟩

namespace Client

theorem nativeEnumerations_enumerate {s : Subject} (plain : s.Plain) (system : System)
    (past : List Exchange) :
    nativeEnumerations (((native .narrow).enumerate s).run system past).exchanges ≠ [] ∧
    ∀ r ∈ nativeEnumerations (((native .narrow).enumerate s).run system past).exchanges,
      r.object = Text.Utf8.encode s.object ++ [0] ∧
      ∀ text ∈ s.machine, r.machine = some (Text.Utf8.encode text ++ [0]) := by
  rw [← nativeEnumerations_ofKind]
  rcases (native .narrow).ofKind_enumerate s system past with ⟨-, calls⟩ | ⟨refused, -⟩
  · cases calls with
    | direct h => cases h
    | native h source machine object lentSource lentMachine lentObject ends calls =>
      refine ⟨calls.nativeEnumerations_ne_nil, fun r hr => ?_⟩
      obtain ⟨sameObject, sameMachine⟩ := calls.passed r hr
      have object := lentObject.symm.trans (Encoding.narrow.argument?_eq_passed plain.object)
      refine ⟨sameObject.trans (Option.some.inj object), fun text ht => ?_⟩
      have machine := Encoding.narrow.argument?_eq_passed (plain.machine text ht)
      change Encoding.narrow.optionalArgument? s.machine = _ at lentMachine
      rw [Option.mem_def.mp ht, Encoding.optionalArgument?, machine] at lentMachine
      exact sameMachine.trans (Option.some.inj lentMachine).symm
  · exact absurd plain refused

theorem forall_passed_iff {α β : Type} {requests : List α} (some : requests ≠ [])
    {passed : α → β} {actual : β} (own : ∀ r ∈ requests, passed r = actual) (expected : β) :
    (∀ r ∈ requests, passed r = expected) ↔ actual = expected := by
  obtain ⟨first, rest, rfl⟩ := List.exists_cons_of_ne_nil some
  constructor
  · intro h
    rw [← own first List.mem_cons_self, h first List.mem_cons_self]
  · rintro rfl
    exact own

/-- The text of a narrow name is passed on in UTF-8, which are the bytes of the name just if all of
them are ASCII. -/
theorem handed_back_iff_ascii (system : System) (ansi : system.Ansi1252)
    (machine : Option String) (index : UInt32) (past : List Exchange) (name : List UInt8)
    (free : 0 ∉ name) (text : String)
    (given : ∃ e ∈ (((native .narrow).nameOf machine index).run system past).exchanges,
      e.Gives name)
    (read : (((native .narrow).nameOf machine index).run system past).value = .ok text)
    (later : List Exchange) (subject : Subject) (plain : subject.Plain) :
    let objects := nativeEnumerations (((native .narrow).enumerate
      { subject with object := text }).run system later).exchanges
    let machines := nativeEnumerations (((native .narrow).enumerate
      { subject with machine := some text }).run system later).exchanges
    (objects ≠ [] ∧ ∀ r ∈ objects, r.object = Text.Utf8.encode text ++ [0]) ∧
    (machines ≠ [] ∧ ∀ r ∈ machines, r.machine = some (Text.Utf8.encode text ++ [0])) ∧
    ((∀ r ∈ objects, r.object = name ++ [0]) ↔ ∀ byte ∈ name, byte < 0x80) ∧
    ((∀ r ∈ machines, r.machine = some (name ++ [0])) ↔ ∀ byte ∈ name, byte < 0x80) := by
  have decoded := decode_of_nameOf ansi free given read
  have whole : Text.hasNul text = false := by
    rw [decoded]
    exact Text.CodePage.hasNul_decode free
  have ascii : Text.Utf8.encode text = name ↔ ∀ byte ∈ name, byte < 0x80 := by
    rw [decoded]
    exact Text.CodePage.utf8_decode_eq_iff name
  obtain ⟨asked, object⟩ := nativeEnumerations_enumerate
    (s := { subject with object := text }) ⟨plain.source, plain.machine, whole⟩ system later
  obtain ⟨asked', machine⟩ := nativeEnumerations_enumerate
    (s := { subject with machine := some text })
    ⟨plain.source, by simpa using whole, plain.object⟩ system later
  have objects := fun r hr => (object r hr).1
  have machines := fun r hr => (machine r hr).2 text rfl
  refine ⟨⟨asked, objects⟩, ⟨asked', machines⟩, ?_, ?_⟩
  · rw [forall_passed_iff asked objects, List.append_left_inj, ascii]
  · rw [forall_passed_iff asked' machines, Option.some_inj, List.append_left_inj, ascii]

def accented : System := fun past call =>
  match call with
  | .measureAnsi bytes => bytes.length
  | .convertAnsi bytes _ => Text.Utf16.encode (Text.CodePage.decode bytes)
  | call =>
    ({ replies := [{ status := Status.moreData, name := { size := some 2 } },
        { name := { size := some 2, data := [0xE9, 0] } }, {}, {}] } : Script).system past call

theorem accented_ansi1252 : accented.Ansi1252 where
  measures _ _ := rfl
  converts _ _ _ _ := rfl

def accentedLookup : Observed (Except CallError String) :=
  ((native .narrow).nameOf none 2).run accented []

theorem accented_gives : ∃ e ∈ accentedLookup.exchanges, e.Gives [0xE9] := by
  refine ⟨_, List.mem_cons_of_mem _ List.mem_cons_self, _, _, _, rfl, rfl, ?_⟩
  decide

theorem accented_read : accentedLookup.value = .ok "é" := by
  rfl

theorem accented_not_handed_back :
    accented.Ansi1252 ∧ accentedLookup.value = .ok "é" ∧
    (∃ e ∈ accentedLookup.exchanges, e.Gives [0xE9]) ∧
    ((nativeEnumerations (((native .narrow).enumerate
        { source := none, machine := none, object := "é", detail := 400 }).run accented
      accentedLookup.exchanges).exchanges).map fun r => r.object) =
        [[0xC3, 0xA9, 0], [0xC3, 0xA9, 0]] ∧
    [0xC3, 0xA9, 0] ≠ [0xE9] ++ [(0 : UInt8)] :=
  ⟨accented_ansi1252, accented_read, accented_gives, rfl, by decide⟩

theorem handed_back_iff_ascii_accented :
    ¬ ∀ r ∈ nativeEnumerations (((native .narrow).enumerate
        { source := none, machine := none, object := "é", detail := 400 }).run accented
      accentedLookup.exchanges).exchanges, r.object = [0xE9] ++ [0] := by
  intro all
  have iff := (handed_back_iff_ascii accented accented_ansi1252 none 2 [] [0xE9] (by decide) "é"
    accented_gives accented_read accentedLookup.exchanges
    { source := none, machine := none, object := "", detail := 400 }
    ⟨by simp, by simp, by decide⟩).2.2.1
  exact absurd (iff.mp all 0xE9 List.mem_cons_self) (by decide)

end Client

end CounterCatalog
