import CounterCatalog.Proofs.Query.Run
import CounterCatalog.Proofs.Wire.Entries
import CounterCatalog.Proofs.Wire.Padding
import CounterCatalog.Wire.Reading
import Mathlib.Data.List.Forall2

set_option autoImplicit false

/-!
# Lists read in place

A list can be read where it is, from a position in bytes on, although its strings are counted in
units and the last of them may have no terminator to step over. `walk?` does so, without a result if
it were to read from behind the end.
-/
namespace CounterCatalog

open Query

namespace Encoding

theorem units_drop (e : Encoding) (bytes : List UInt8) (n : Nat) :
    e.units (bytes.drop (n * e.width)) = (e.units bytes).drop n := by
  cases e with
  | narrow =>
    change (bytes.drop (n * 1)).map _ = (bytes.map _).drop n
    rw [Nat.mul_one, List.map_drop]
  | wide =>
    change wideUnits (bytes.drop (n * 2)) = (wideUnits bytes).drop n
    induction n generalizing bytes with
    | zero => rfl
    | succ n ih =>
      rw [show (n + 1) * 2 = n * 2 + 1 + 1 by omega]
      match bytes with
      | [] => simp [wideUnits]
      | [_] => simp [wideUnits]
      | low :: high :: rest =>
        rw [List.drop_succ_cons, List.drop_succ_cons, ih, wideUnits, List.drop_succ_cons]

def Carries (e : Encoding) (us : List UInt16) : Prop :=
  e = .narrow → ∀ unit ∈ us, unit.toNat < 0x100

theorem units_bytes {e : Encoding} {us : List UInt16} (carried : e.Carries us) :
    e.units (e.bytes us) = us := by
  cases e with
  | wide => exact wideUnits_wideBytes us
  | narrow =>
    change (us.map (·.toUInt8)).map (·.toUInt16) = us
    have same : ∀ unit ∈ us, unit.toUInt8.toUInt16 = unit := by
      intro unit hu
      apply UInt16.toNat_inj.mp
      rw [UInt8.toNat_toUInt16, UInt16.toNat_toUInt8, Nat.mod_eq_of_lt (carried rfl unit hu)]
    calc (us.map (·.toUInt8)).map (·.toUInt16)
        = us.map id := by
          rw [List.map_map]
          exact List.map_congr_left same
      _ = us := List.map_id us

theorem carries_listUnits {e : Encoding} {es : List (List UInt16)}
    (carried : ∀ entry ∈ es, e.Carries entry) : e.Carries (Wire.listUnits es) := by
  intro narrow unit hu
  rcases List.mem_append.mp hu with inside | last
  · obtain ⟨entry, he, hu⟩ := List.mem_flatMap.mp inside
    rcases List.mem_append.mp hu with own | zero
    · exact carried entry he narrow unit own
    · rw [List.mem_singleton.mp zero]
      decide
  · rw [List.mem_singleton.mp last]
    decide

theorem width_dvd_length_bytes (e : Encoding) (us : List UInt16) :
    e.width ∣ (e.bytes us).length := by
  cases e with
  | narrow => exact Nat.one_dvd _
  | wide => exact ⟨us.length, by rw [bytes, length_wideBytes, Nat.mul_comm]; rfl⟩

end Encoding

namespace Wire

variable {p : Platform} {e : Encoding} {bytes : List UInt8}

/-- The bytes from a position on, which may be the end but not behind it. -/
def bytesFrom? (bytes : List UInt8) (position : Nat) : Option (List UInt8) :=
  if position ≤ bytes.length then some (bytes.drop position) else none

/-- The texts from a position on. A string that is read has its units and a terminator to step over,
and one without units ends the list. -/
def walk? (p : Platform) (e : Encoding) (bytes : List UInt8) (position : Nat) :
    Query (Option (List String)) :=
  if position < bytes.length then
    match bytesFrom? bytes position with
    | none => pure none
    | some rest => do
      let (text, length) ← readString p e rest
      if length = 0 then return some []
      else
        let texts ← walk? p e bytes (position + (length + 1) * e.width)
        return texts.map (text :: ·)
  else pure (some [])
termination_by bytes.length - position
decreasing_by
  have step : 0 < (length + 1) * e.width := Nat.mul_pos (Nat.succ_pos length) e.width_pos
  omega

theorem readUnits_nil (p : Platform) (e : Encoding) :
    ∃ text, readUnits p e [] = pure text := by
  cases e with
  | wide => exact ⟨_, rfl⟩
  | narrow => cases p <;> exact ⟨_, rfl⟩

theorem walk?_eq (position : Nat) :
    walk? p e bytes position = do
      return some (← readEntries p e (entries (e.units (bytes.drop position)))) := by
  induction position using walk?.induct e bytes with
  | case1 position inside none =>
    rw [bytesFrom?, if_pos (Nat.le_of_lt inside)] at none
    cases none
  | case2 position inside rest found ih =>
    rw [walk?, if_pos inside, found, entries_eq]
    rw [bytesFrom?, if_pos (Nat.le_of_lt inside)] at found
    cases found
    dsimp only
    generalize string : stringUnits (e.units (bytes.drop position)) = units
    have next := ih units.length
    rw [← List.drop_drop, Encoding.units_drop] at next
    simp only [readString, string, bind_assoc, pure_bind]
    by_cases empty : units = []
    · obtain ⟨text, silent⟩ := readUnits_nil p e
      rw [if_pos empty, empty, silent]
      rfl
    · have some : units.length ≠ 0 := by simpa using empty
      rw [if_neg empty, readEntries]
      simp only [if_neg some, next, bind_assoc, pure_bind, Option.map_some]
  | case3 position outside =>
    rw [walk?, if_neg outside, List.drop_eq_nil_of_le (Nat.le_of_not_lt outside), e.units_nil]
    rfl

theorem readEntries_eq_mapM (es : List (List UInt16)) :
    readEntries p e es = es.mapM (readUnits p e) := by
  induction es with
  | nil => rfl
  | cons entry es ih => rw [readEntries, List.mapM_cons, ih]

theorem forall₂_readEntries (system : System) (past : List Exchange) (es : List (List UInt16)) :
    List.Forall₂
      (fun entry text => ∃ earlier, ((readUnits p e entry).run system earlier).value = text) es
      ((readEntries p e es).run system past).value := by
  induction es generalizing past with
  | nil => exact .nil
  | cons entry es ih =>
    rw [readEntries, value_bind, value_map]
    exact .cons ⟨past, rfl⟩ (ih _)

/-- Reading a list never looks behind the bytes, and gives the texts of the segments before the
first empty one, each read by itself. -/
theorem readList_grammar (p : Platform) (e : Encoding) :
    (∀ bytes : List UInt8,
      let segments := ((e.units bytes).splitOn 0).takeWhile (· ≠ [])
      (walk? p e bytes 0 = do return some (← readList p e bytes)) ∧
      readList p e bytes = segments.mapM (readUnits p e) ∧
      ∀ system past,
        List.Forall₂
          (fun segment text =>
            ∃ earlier, ((readUnits p e segment).run system earlier).value = text) segments
          ((readList p e bytes).run system past).value) ∧
    ∀ (es : List (List UInt16)) (behind : List UInt8),
      (∀ entry ∈ es, entry ≠ [] ∧ 0 ∉ entry ∧ e.Carries entry) →
      readList p e (e.bytes (listUnits es) ++ behind) = es.mapM (readUnits p e) := by
  constructor
  · intro bytes segments
    have read : readList p e bytes = readEntries p e segments := by
      rw [readList, entries_eq_splitOn]
    refine ⟨walk?_eq 0, ?_, fun system past => ?_⟩
    · rw [read, readEntries_eq_mapM]
    · rw [read]
      exact forall₂_readEntries system past segments
  · intro es behind plain
    have carried : e.Carries (listUnits es) :=
      Encoding.carries_listUnits fun entry he => (plain entry he).2.2
    rw [readList, Encoding.units_append (e.width_dvd_length_bytes _), Encoding.units_bytes carried,
      entries_listUnits_append_of_plain fun entry he => ⟨(plain entry he).1, (plain entry he).2.1⟩,
      readEntries_eq_mapM]

theorem readList_grammar_accented :
    readList .windows .narrow [0x4D, 0xE9, 0x00, 0x35, 0x00, 0x00, 0x78] = do
      let first ← readNarrow .windows [0x4D, 0xE9]
      let second ← readNarrow .windows [0x35]
      return [first, second] := by
  refine ((readList_grammar .windows .narrow).2 [[0x4D, 0xE9], [0x35]] [0x78] ?_).trans ?_
  · simp [Encoding.Carries]
  · rw [List.mapM_cons, List.mapM_cons, List.mapM_nil]
    simp only [bind_assoc, pure_bind]
    rfl

end Wire

end CounterCatalog
