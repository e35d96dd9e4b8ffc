import CounterCatalog.Proofs.Wire.Segments

set_option autoImplicit false

namespace CounterCatalog.Wire

variable {us segment : List UInt16}

def terminatedSegments (us : List UInt16) : List (List UInt16) := (us.splitOn 0).dropLast

/-- The first segment, empty or not, and of those behind it the longest run without an empty one. -/
def leading : List (List UInt16) → List (List UInt16)
  | [] => []
  | first :: others => first :: others.takeWhile (· ≠ [])

theorem leading_subset (segments : List (List UInt16)) : leading segments ⊆ segments := by
  cases segments with
  | nil => exact List.Subset.refl _
  | cons first others => exact List.cons_subset_cons first (List.takeWhile_subset _)

theorem filled_of_mem_tail_leading {segments : List (List UInt16)} {entry : List UInt16}
    (h : entry ∈ (leading segments).tail) : entry ≠ [] := by
  cases segments with
  | nil => exact absurd h List.not_mem_nil
  | cons first others => simpa using List.mem_takeWhile_imp h

theorem terminatedSegments_of_free (free : 0 ∉ us) : terminatedSegments us = [] := by
  rw [terminatedSegments, List.splitOn_eq_singleton free]
  rfl

theorem terminatedSegments_append (free : 0 ∉ segment) (rest : List UInt16) :
    terminatedSegments (segment ++ 0 :: rest) = segment :: terminatedSegments rest := by
  rw [terminatedSegments, List.splitOn_append_cons_self_of_not_mem free,
    List.dropLast_cons_of_ne_nil (List.splitOn_ne_nil 0 rest), terminatedSegments]

theorem terminatedSegments_listUnits {es : List (List UInt16)} (free : ∀ e ∈ es, 0 ∉ e) :
    terminatedSegments (listUnits es) = es ++ [[]] := by
  induction es with
  | nil => exact terminatedSegments_append List.not_mem_nil []
  | cons e es ih =>
    have written : listUnits (e :: es) = e ++ 0 :: listUnits es := by simp [listUnits]
    rw [written, terminatedSegments_append (free e List.mem_cons_self),
      ih fun entry he => free entry (List.mem_cons_of_mem _ he), List.cons_append]

theorem takeWhile_terminatedSegments (h : us.head? ≠ some 0) :
    (terminatedSegments us).takeWhile (· ≠ []) = leading (terminatedSegments us) := by
  by_cases zero : 0 ∈ us
  · obtain ⟨segment, rest, rfl, free⟩ := List.eq_append_cons_of_mem zero
    have filled : segment ≠ [] := by
      rintro rfl
      exact h rfl
    rw [terminatedSegments_append free, List.takeWhile_cons_of_pos (by simpa using filled), leading]
  · rw [terminatedSegments_of_free zero]
    rfl

theorem terminatedEntries_of_free (free : 0 ∉ us) : terminatedEntries us = [] := by
  suffices none : ∀ pending, terminatedEntriesFrom pending us = [] from none []
  induction us with
  | nil => exact fun _ => rfl
  | cons u us ih =>
    intro pending
    have hu : u ≠ 0 := fun zero => free (zero ▸ List.mem_cons_self)
    rw [terminatedEntriesFrom, if_neg hu]
    exact ih (fun zero => free (List.mem_cons_of_mem _ zero)) _

theorem terminatedEntriesFrom_append (pending e rest : List UInt16) (h : 0 ∉ e) :
    terminatedEntriesFrom pending (e ++ 0 :: rest) =
      if rest.head? = some 0 then [pending.reverse ++ e]
      else (pending.reverse ++ e) :: terminatedEntries rest := by
  induction e generalizing pending with
  | nil =>
    rw [List.nil_append, terminatedEntriesFrom, if_pos rfl, List.append_nil]
    rfl
  | cons u e ih =>
    have hu : u ≠ 0 := fun eq => h (eq ▸ List.mem_cons_self)
    rw [List.cons_append, terminatedEntriesFrom, if_neg hu,
      ih (u :: pending) fun hm => h (List.mem_cons_of_mem _ hm), List.reverse_cons,
      List.append_assoc, List.singleton_append]

theorem terminatedEntries_append (free : 0 ∉ segment) (rest : List UInt16) :
    terminatedEntries (segment ++ 0 :: rest) =
      if rest.head? = some 0 then [segment] else segment :: terminatedEntries rest :=
  terminatedEntriesFrom_append [] segment rest free

theorem terminatedEntries_eq_leading (us : List UInt16) :
    terminatedEntries us = leading (terminatedSegments us) := by
  induction us using segments_induction with
  | last us free =>
    rw [terminatedEntries_of_free free, terminatedSegments_of_free free]
    rfl
  | terminated segment rest free ih =>
    rw [terminatedEntries_append free, terminatedSegments_append free, leading]
    by_cases ended : rest.head? = some 0
    · -- The segment behind is empty, and so nothing is taken of it and the others.
      obtain ⟨behind, rfl⟩ : ∃ behind, rest = 0 :: behind := List.head?_eq_some_iff.mp ended
      have empty : terminatedSegments (0 :: behind) = [] :: terminatedSegments behind :=
        terminatedSegments_append List.not_mem_nil behind
      rw [if_pos ended, empty]
      rfl
    · rw [if_neg ended, takeWhile_terminatedSegments ended, ih]

theorem terminatedEntries_listUnits_of_free {first : List UInt16} {others : List (List UInt16)}
    (free : ∀ entry ∈ first :: others, 0 ∉ entry) :
    terminatedEntries (listUnits (first :: others)) = first :: others.takeWhile (· ≠ []) := by
  rw [terminatedEntries_eq_leading, terminatedSegments_listUnits free, List.cons_append, leading,
    takeWhile_append_nil_cons]

theorem terminatedEntries_listUnits {es : List (List UInt16)} (some : es ≠ [])
    (h : ∀ e ∈ es, e ≠ [] ∧ 0 ∉ e) : terminatedEntries (listUnits es) = es := by
  obtain ⟨first, others, rfl⟩ := List.exists_cons_of_ne_nil some
  have filled : others.takeWhile (· ≠ []) = others := by
    rw [List.takeWhile_eq_self_iff]
    exact fun entry he => decide_eq_true (h entry (List.mem_cons_of_mem _ he)).1
  rw [terminatedEntries_listUnits_of_free fun entry he => (h entry he).2, filled]

theorem exists_rest_terminatedEntries (us : List UInt16) :
    ∃ rest, us = (terminatedEntries us).flatMap (· ++ [0]) ++ rest ∧
      (rest = [] ∨ rest.head? = some 0 ∨ 0 ∉ rest) := by
  induction us using segments_induction with
  | last us free =>
    rw [terminatedEntries_of_free free]
    exact ⟨us, rfl, .inr (.inr free)⟩
  | terminated segment rest free ih =>
    rw [terminatedEntries_append free]
    by_cases ended : rest.head? = some 0
    · rw [if_pos ended]
      exact ⟨rest, by simp, .inr (.inl ended)⟩
    · obtain ⟨behind, whole, kind⟩ := ih
      rw [if_neg ended]
      refine ⟨behind, ?_, kind⟩
      rw [List.flatMap_cons, List.append_assoc, List.append_assoc, List.singleton_append, ← whole]

/-- The reader takes the leading terminated segments. Of a written list it gives back the first
entry and those before the first empty one of the others. -/
theorem terminatedEntries_grammar :
    (∀ us : List UInt16,
      terminatedEntries us = leading (terminatedSegments us) ∧
      (∀ entry ∈ terminatedEntries us, 0 ∉ entry) ∧
      (∀ entry ∈ (terminatedEntries us).tail, entry ≠ []) ∧
      ∃ rest, us = (terminatedEntries us).flatMap (· ++ [0]) ++ rest ∧
        (rest = [] ∨ rest.head? = some 0 ∨ 0 ∉ rest)) ∧
    (∀ (first : List UInt16) (others : List (List UInt16)),
      (∀ entry ∈ first :: others, 0 ∉ entry) →
      terminatedEntries (listUnits (first :: others)) = first :: others.takeWhile (· ≠ []) ∧
      (terminatedEntries (listUnits (first :: others)) = first :: others ↔ [] ∉ others)) ∧
    terminatedEntries (listUnits []) = [[]] := by
  refine ⟨fun us => ⟨terminatedEntries_eq_leading us, ?_, ?_, exists_rest_terminatedEntries us⟩,
    fun first others free => ?_, rfl⟩
  · rw [terminatedEntries_eq_leading]
    intro entry he
    exact zero_not_mem_of_mem_splitOn (List.dropLast_subset _ (leading_subset _ he))
  · rw [terminatedEntries_eq_leading]
    exact fun entry he => filled_of_mem_tail_leading he
  · have back := terminatedEntries_listUnits_of_free free
    refine ⟨back, ?_⟩
    rw [back, List.cons.injEq, and_iff_right rfl, List.takeWhile_eq_self_iff]
    simp only [decide_eq_true_eq, List.forall_mem_ne']

theorem terminatedEntries_grammar_lost :
    terminatedEntries (listUnits [[0x61], [0x62], [], [0x63]]) = [[0x61], [0x62]] ∧
      ¬ terminatedEntries (listUnits [[0x61], [0x62], [], [0x63]]) = [[0x61], [0x62], [], [0x63]] ∧
      terminatedEntries [0, 0x61, 0, 0x62] = [[], [0x61]] := by
  obtain ⟨units, lists, -⟩ := terminatedEntries_grammar
  obtain ⟨back, whole⟩ := lists [0x61] [[0x62], [], [0x63]] (by decide)
  refine ⟨back, fun same => whole.mp same (by decide), ?_⟩
  rw [(units [0, 0x61, 0, 0x62]).1]
  rfl

end CounterCatalog.Wire
