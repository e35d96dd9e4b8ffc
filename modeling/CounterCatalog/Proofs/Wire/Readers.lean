import CounterCatalog.Proofs.Wire.Terminated
import CounterCatalog.Proofs.Wire.Texts
import CounterCatalog.System.Script

set_option autoImplicit false

namespace CounterCatalog.Wire

variable {us segment : List UInt16}

/-- What stands behind the terminated entries and their terminators. -/
def remainder (us : List UInt16) : List UInt16 :=
  us.drop ((terminatedEntries us).flatMap (· ++ [0])).length

/-- The entry that a rest is without a terminator, unless there is no rest or it has one. -/
def unterminated (rest : List UInt16) : List (List UInt16) :=
  if rest ≠ [] ∧ 0 ∉ rest then [rest] else []

theorem remainder_spec (us : List UInt16) :
    us = (terminatedEntries us).flatMap (· ++ [0]) ++ remainder us ∧
      (remainder us = [] ∨ (remainder us).head? = some 0 ∨ 0 ∉ remainder us) := by
  obtain ⟨rest, whole, kind⟩ := exists_rest_terminatedEntries us
  have behind : remainder us = rest := by
    have dropped := congrArg (List.drop ((terminatedEntries us).flatMap (· ++ [0])).length) whole
    rwa [List.drop_left] at dropped
  rw [behind]
  exact ⟨whole, kind⟩

theorem remainder_of_free (free : 0 ∉ us) : remainder us = us := by
  rw [remainder, terminatedEntries_of_free free]
  rfl

theorem remainder_append (free : 0 ∉ segment) (rest : List UInt16) :
    remainder (segment ++ 0 :: rest) =
      if rest.head? = some 0 then rest else remainder rest := by
  have behind : ∀ entries : List (List UInt16),
      (segment ++ 0 :: rest).drop ((segment :: entries).flatMap (· ++ [0])).length =
        rest.drop (entries.flatMap (· ++ [0])).length := by
    intro entries
    have whole : segment ++ 0 :: rest = (segment ++ [0]) ++ rest := List.append_cons segment 0 rest
    rw [whole, List.flatMap_cons, List.length_append, ← List.drop_drop, List.drop_left]
  rw [remainder, terminatedEntries_append free]
  split
  · exact behind []
  · exact behind (terminatedEntries rest)

theorem unterminated_eq_nil_iff {rest : List UInt16}
    (kind : rest = [] ∨ rest.head? = some 0 ∨ 0 ∉ rest) :
    unterminated rest = [] ↔ rest = [] ∨ rest.head? = some 0 := by
  unfold unterminated
  split
  · next loose =>
    refine ⟨fun none => absurd none (by simp), ?_⟩
    rintro (none | zero)
    · exact absurd none loose.1
    · exact absurd (List.mem_of_head? zero) loose.2
  · next closed =>
    refine ⟨fun _ => ?_, fun _ => rfl⟩
    rcases kind with none | zero | free
    · exact .inl none
    · exact .inr zero
    · exact .inl (not_not.mp fun some => closed ⟨some, free⟩)

theorem entries_eq_append_unterminated (start : us.head? ≠ some 0) :
    entries us = terminatedEntries us ++ unterminated (remainder us) := by
  induction us using segments_induction with
  | last us free =>
    rw [terminatedEntries_of_free free, remainder_of_free free, entries_of_free free, unterminated]
    simp only [free, not_false_eq_true, and_true, ite_not, List.nil_append]
  | terminated segment rest free ih =>
    have filled : segment ≠ [] := by
      rintro rfl
      exact start rfl
    rw [entries_append free filled, terminatedEntries_append free, remainder_append free]
    by_cases ended : rest.head? = some 0
    · -- Both readers stop here, one behind the terminator and one at the empty entry.
      obtain ⟨behind, rfl⟩ : ∃ behind, rest = 0 :: behind := List.head?_eq_some_iff.mp ended
      rw [if_pos ended, if_pos ended, entries_zero_cons, unterminated,
        if_neg fun both => both.2 List.mem_cons_self]
      rfl
    · rw [if_neg ended, if_neg ended, ih ended, List.cons_append]

theorem head?_terminatedEntries (start : us.head? = some 0) :
    (terminatedEntries us).head? = some [] := by
  obtain ⟨rest, rfl⟩ : ∃ rest, us = 0 :: rest := List.head?_eq_some_iff.mp start
  have first := terminatedEntries_append List.not_mem_nil rest
  rw [List.nil_append] at first
  rw [first]
  split <;> rfl

/-- The two readers give the same texts but for an empty one at the beginning, which is no entry to
the reader of lists, and an unterminated one at the end, which is one to it alone. -/
theorem readers_agree_iff (p : Platform) (us : List UInt16) (system : System)
    (past : List Exchange) :
    let listed := ((readList p .wide (Encoding.wideBytes us)).run system past).value
    let terminated := (terminatedEntries us).map Text.Utf16.decode
    let rest := remainder us
    us = (terminatedEntries us).flatMap (· ++ [0]) ++ rest ∧
    (us.head? = some 0 → listed = [] ∧ (terminatedEntries us).head? = some []) ∧
    (us.head? ≠ some 0 →
      listed = terminated ++ if rest ≠ [] ∧ 0 ∉ rest then [Text.Utf16.decode rest] else []) ∧
    (listed = terminated ↔
      us = [] ∨ (∃ first ∈ us.head?, first ≠ 0) ∧ (rest = [] ∨ rest.head? = some 0)) ∧
    ∀ es : List (List UInt16), es ≠ [] → (∀ entry ∈ es, entry ≠ [] ∧ 0 ∉ entry) →
      us = listUnits es → listed = es.map Text.Utf16.decode ∧ listed = terminated := by
  intro listed terminated rest
  obtain ⟨whole, kind⟩ := remainder_spec us
  have read : listed = (entries us).map Text.Utf16.decode := by
    change ((readList p .wide (Encoding.wideBytes us)).run system past).value = _
    rw [value_readList_wide]
    change (entries (Encoding.wideUnits _)).map _ = _
    rw [Encoding.wideUnits_wideBytes]
  have begun : us.head? = some 0 → listed = [] ∧ (terminatedEntries us).head? = some [] := by
    intro start
    refine ⟨?_, head?_terminatedEntries start⟩
    obtain ⟨behind, rfl⟩ : ∃ behind, us = 0 :: behind := List.head?_eq_some_iff.mp start
    rw [read, entries_zero_cons, List.map_nil]
  have differ : us.head? ≠ some 0 →
      listed = terminated ++ (unterminated rest).map Text.Utf16.decode := by
    intro start
    rw [read, entries_eq_append_unterminated start, List.map_append]
  refine ⟨whole, begun, fun start => ?_, ?_, fun es some plain written => ?_⟩
  · rw [differ start, unterminated]
    split <;> rfl
  · by_cases start : us.head? = some 0
    · -- The readers differ, and the units begin with a zero.
      obtain ⟨none, empty⟩ := begun start
      have unlike : listed ≠ terminated := by
        intro same
        rw [List.map_eq_nil_iff.mp (same.symm.trans none)] at empty
        cases empty
      refine ⟨fun same => absurd same unlike, ?_⟩
      rintro (rfl | ⟨⟨first, first_mem, nonzero⟩, -⟩)
      · cases start
      · rw [start] at first_mem
        exact absurd (Option.some.inj first_mem).symm nonzero
    · rw [differ start, List.append_right_eq_self, List.map_eq_nil_iff,
        unterminated_eq_nil_iff kind]
      cases us with
      | nil => exact ⟨fun _ => .inl rfl, fun _ => .inl rfl⟩
      | cons first others =>
        have nonzero : first ≠ 0 := fun zero => start (congrArg some zero)
        refine ⟨fun ended => .inr ⟨⟨first, rfl, nonzero⟩, ended⟩, ?_⟩
        rintro (none | ⟨-, ended⟩)
        · cases none
        · exact ended
  · have same := terminatedEntries_listUnits some plain
    rw [← written] at same
    have all := entries_listUnits_of_plain plain
    rw [← written] at all
    change _ ∧ listed = (terminatedEntries us).map Text.Utf16.decode
    rw [read, all, same]
    exact ⟨rfl, rfl⟩

theorem readers_agree_iff_unterminated :
    ((readList .plain .wide (Encoding.wideBytes [0x61, 0, 0xD83D, 0xDE00])).run
        ({} : Script).system []).value = ["a", "😀"] ∧
      terminatedEntries [0x61, 0, 0xD83D, 0xDE00] = [[0x61]] ∧
      ((readList .plain .wide (Encoding.wideBytes (listUnits [[0x61], [0xD83D, 0xDE00]]))).run
        ({} : Script).system []).value = ["a", "😀"] := by
  have loose := readers_agree_iff .plain [0x61, 0, 0xD83D, 0xDE00] ({} : Script).system []
  have written := readers_agree_iff .plain (listUnits [[0x61], [0xD83D, 0xDE00]])
    ({} : Script).system []
  refine ⟨(loose.2.2.1 (by decide)).trans (by decide), by decide, ?_⟩
  exact (written.2.2.2.2 [[0x61], [0xD83D, 0xDE00]] (by decide) (by decide) rfl).1.trans (by decide)

end CounterCatalog.Wire
