import CounterCatalog.Proofs.Session.Agreement
import CounterCatalog.Proofs.Wire.Texts

set_option autoImplicit false

namespace CounterCatalog

open Query

def View.ofService : View where
  call call := call.kind = .counters ∨ call.kind = .table
  line _ := none

theorem View.ofSessions_ofService : View.ofService.OfSessions where
  counters call kind := by simp [ofService, kind]
  table call kind := by simp [ofService, kind]
  hides call kind := by simp [ofService, kind]
  warnings text other := rfl

/-- The texts are the same if all units that they were read from are ASCII. -/
def SameIfAscii : TextRelation :=
  fun units text other => (∀ unit ∈ units, unit < 0x80) → text = other

section Readings
variable {first second : System}

theorem read_wide :
    TextRelation.Read (fun _ => Eq) .ofService first second .plain .windows .wide where
  empty := rfl
  units _ := .pure rfl

theorem Encoding.lt_of_mem_bytes_narrow {units : List UInt16}
    (ascii : ∀ unit ∈ units, unit < 0x80) : ∀ byte ∈ narrow.bytes units, byte < 0x80 := by
  intro byte hb
  obtain ⟨unit, member, rfl⟩ := List.mem_map.mp hb
  have small := UInt16.lt_iff_toNat_lt.mp (ascii unit member)
  rw [UInt8.lt_iff_toNat_lt, UInt16.toNat_toUInt8]
  exact Nat.lt_of_le_of_lt (Nat.mod_le _ _) small

theorem read_narrow (keeps : second.KeepsAscii) :
    TextRelation.Read SameIfAscii .ofService first second .plain .windows .narrow where
  empty _ := rfl
  units units := by
    have hidden : ∀ p, Only (View.ofService.call · = false) (Wire.readUnits p .narrow units) :=
      fun p => (Wire.readUnits_only p .narrow units).mono fun call h => by
        simp [View.ofService, h.1]
    refine .hidden (hidden _) (hidden _) (fun _ => rfl) (fun past => ?_) fun past other ascii => ?_
    · exact List.filterMap_eq_nil_iff.mpr fun _ _ => rfl
    · have bytes := Encoding.lt_of_mem_bytes_narrow ascii
      exact (Wire.value_readNarrow_of_ascii keeps bytes other).symm

end Readings

theorem Script.agree_ofService {s t : Script} (replies : s.replies = t.replies) :
    System.Agree .ofService s.system t.system := by
  intro past other alike call seen
  have reply := counterReply_congr replies View.ofSessions_ofService.counters alike
  cases call with
  | lookup | enumerate | nativeLookup | nativeEnumerate =>
    simp only [system]
    rw [reply]
  | readTable => rfl
  | _ => cases seen

theorem Script.doubleByteUnits_of_ascii {bytes : List UInt8}
    (ascii : ∀ byte ∈ bytes, byte < 0x80) :
    doubleByteUnits bytes = Encoding.narrow.units bytes := by
  induction bytes using doubleByteUnits.induct with
  | case1 => rfl
  | case2 byte =>
    rw [doubleByteUnits, if_pos (ascii byte List.mem_cons_self)]
    rfl
  | case3 first second rest small ih =>
    rw [doubleByteUnits, if_pos small, ih fun byte hb => ascii byte (List.mem_cons_of_mem _ hb)]
    rfl
  | case4 first second rest large => exact absurd (ascii first List.mem_cons_self) large

theorem Script.keepsAscii {s : Script} (h : s.ansi ≠ .short) : s.system.KeepsAscii where
  measures past bytes ascii := by
    change s.ansi.measure bytes = 0 ∨ s.ansi.measure bytes = bytes.length
    cases page : s.ansi with
    | failing => exact .inl rfl
    | doubleByte =>
      refine .inr ?_
      change (doubleByteUnits bytes).length = _
      rw [doubleByteUnits_of_ascii ascii]
      exact List.length_map _
    | latin | failingConversion | short => exact .inr rfl
  converts past bytes capacity ascii _ := by
    change s.ansi.convert bytes capacity = [] ∨
      s.ansi.convert bytes capacity = Encoding.narrow.units bytes
    cases page : s.ansi with
    | failing | failingConversion => exact .inl rfl
    | doubleByte => exact .inr (doubleByteUnits_of_ascii ascii)
    | latin => exact .inr rfl
    | short => exact absurd page h

def Client.portable (encoding : Encoding) : Client where
  platform := .plain
  binding := .direct
  encoding := encoding

namespace Session

/-- The same outcome on both builds, but for narrow texts that are not ASCII. -/
def SameOutcome (e : Encoding) (es : List Exchange) (outcome other : Outcome) : Prop :=
  match e with
  | .wide => outcome.Alike Eq Eq es other
  | .narrow =>
    outcome.Alike (NameAlike SameIfAscii es)
      (fun items others => items.counters.length = others.counters.length ∧
        items.instances.length = others.instances.length ∧ ItemsAlike SameIfAscii es items others)
      es other

/-- A session that leaves the registry alone makes the same calls off Windows as on it and succeeds
or fails alike, with the same wide texts, as many narrow ones, and the same ASCII texts. -/
theorem builds_agree (e : Encoding) (table : Table.Source) (outside : table ≠ .registry)
    (steps : List Step) (h : ∀ step ∈ steps, step.usesRegistry = false) :
    let plain : Session := { client := .portable e, table }
    let windows : Session := { client := .direct e, table }
    (∀ script other : Script, script.replies = other.replies →
      (e = .narrow → other.system.KeepsAscii) →
      List.Forall₂ (Observed.Agree .ofService (SameOutcome e)) (plain.run script.system steps)
        (windows.run other.system steps)) ∧
    ∀ first second : System, System.Agree .ofService first second →
      (e = .narrow → second.KeepsAscii) →
      List.Forall₂ (Observed.Agree .ofService (SameOutcome e)) (plain.run first steps)
        (windows.run second steps) := by
  intro plain windows
  have agrees : ∀ first second : System, System.Agree .ofService first second →
      (e = .narrow → second.KeepsAscii) →
      List.Forall₂ (Observed.Agree .ofService (SameOutcome e)) (plain.run first steps)
        (windows.run second steps) := by
    intro first second agree keeps
    have unseen : (table = .registry ∨ ∃ step ∈ steps, step.usesRegistry = true) →
        View.ofService.SeesRegistry := by
      rintro (own | ⟨step, member, uses⟩)
      · exact absurd own outside
      · rw [h step member] at uses
        cases uses
    cases e with
    | wide =>
      refine (agree_runFrom View.ofSessions_ofService agree plain read_wide steps unseen [] []
        rfl).imp fun shown other alike => ?_
      exact ⟨alike.exchanges, alike.log,
        alike.value.mono (fun _ _ => NameAlike.eq) fun _ _ => ItemsAlike.eq⟩
    | narrow =>
      refine (agree_runFrom View.ofSessions_ofService agree plain (read_narrow (keeps rfl)) steps
        unseen [] [] rfl).imp fun shown other alike => ?_
      exact ⟨alike.exchanges, alike.log,
        alike.value.mono (fun _ _ => id) fun _ _ => ItemsAlike.lengths⟩
  exact ⟨fun script other replies => agrees _ _ (Script.agree_ofService replies), agrees⟩

def mixed : Script where
  replies :=
    [{ status := Status.moreData, name := { size := some 4 } },
      { name := { data := [0x43, 0x50, 0x55] } },
      { status := Status.moreData, counters := { size := some 9 }
        instances := { size := some 1 } },
      { counters := { data := [0x83, 0x5C, 0, 0x25, 0x20, 0x43, 0, 0] } },
      { status := Status.noObject }]

theorem builds_agree_mixed :
    let subject : Client.Subject :=
      { source := none, machine := none, object := "CPU", detail := 400 }
    let steps : List Step := [.localizedName none "Processor", .enumerate subject, .nameOf none 9]
    let plain : Session :=
      { client := .portable .narrow, table := .listed ["238", "Processor"] }
    let windows : Session :=
      { client := .direct .narrow, table := .listed ["238", "Processor"] }
    List.Forall₂ (Observed.Agree .ofService (SameOutcome .narrow))
      (plain.run mixed.system steps)
      (windows.run { mixed with ansi := .doubleByte }.system steps) := by
  intro subject steps plain windows
  exact (builds_agree .narrow (.listed ["238", "Processor"]) (by decide) steps (by decide)).1
    mixed { mixed with ansi := .doubleByte } rfl fun _ => Script.keepsAscii (by decide)

end Session

end CounterCatalog
