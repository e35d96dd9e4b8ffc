import CounterCatalog.Proofs.Wire.Segments

set_option autoImplicit false

namespace CounterCatalog.Wire

theorem entriesFrom_eq_splitOn (pending us : List UInt16) :
    entriesFrom pending us =
      ((us.splitOn 0).modifyHead (pending.reverse ++ ·)).takeWhile (· ≠ []) := by
  -- The pending units are the beginning of the first part.
  induction us generalizing pending with
  | nil => by_cases h : pending = [] <;> simp [entriesFrom, h]
  | cons u us ih =>
    rw [entriesFrom, List.splitOn_cons_eq_if_modifyHead]
    by_cases hu : u = 0
    · subst hu
      have plain : (us.splitOn 0).modifyHead (([] : List UInt16).reverse ++ ·) = us.splitOn 0 := by
        cases us.splitOn 0 <;> rfl
      rw [if_pos rfl, if_pos (beq_self_eq_true _), ih, plain]
      by_cases h : pending = [] <;> simp [h]
    · have grown : (fun part => pending.reverse ++ part) ∘ List.cons u =
          fun part => (u :: pending).reverse ++ part := by
        funext part
        simp
      rw [if_neg hu, if_neg (by simpa using hu), ih, List.modifyHead_modifyHead, grown]

theorem entries_eq_splitOn (us : List UInt16) :
    entries us = (us.splitOn 0).takeWhile (· ≠ []) := by
  rw [entries, entriesFrom_eq_splitOn]
  cases us.splitOn 0 <;> rfl

theorem splitOn_flatMap_append (es : List (List UInt16)) (rest : List UInt16) :
    (es.flatMap (· ++ [0]) ++ rest).splitOn 0 =
      es.flatMap (·.splitOn 0) ++ rest.splitOn 0 := by
  induction es with
  | nil => rfl
  | cons e es ih =>
    rw [List.flatMap_cons, List.flatMap_cons, List.append_assoc, List.append_assoc,
      List.append_assoc, List.singleton_append, List.splitOn_append_cons_self, ih]

theorem entries_listUnits_append (es : List (List UInt16)) (behind : List UInt16) :
    entries (listUnits es ++ behind) = (es.flatMap (·.splitOn 0)).takeWhile (· ≠ []) := by
  have ending : (0 :: behind).splitOn 0 = [] :: behind.splitOn 0 :=
    List.splitOn_append_cons_self_of_not_mem List.not_mem_nil behind
  rw [entries_eq_splitOn, listUnits, List.append_assoc, List.singleton_append,
    splitOn_flatMap_append, ending, takeWhile_append_nil_cons]

theorem entries_listUnits (es : List (List UInt16)) :
    entries (listUnits es) = (es.flatMap (·.splitOn 0)).takeWhile (· ≠ []) := by
  rw [← List.append_nil (listUnits es), entries_listUnits_append]

theorem entries_listUnits_append_of_plain {es : List (List UInt16)}
    (h : ∀ e ∈ es, e ≠ [] ∧ 0 ∉ e) (behind : List UInt16) :
    entries (listUnits es ++ behind) = es := by
  have parts : es.flatMap (·.splitOn 0) = es := by
    induction es with
    | nil => rfl
    | cons e es ih =>
      rw [List.flatMap_cons, List.splitOn_eq_singleton (h e List.mem_cons_self).2,
        ih fun entry he => h entry (List.mem_cons_of_mem _ he)]
      rfl
  rw [entries_listUnits_append, parts, List.takeWhile_eq_self_iff]
  exact fun e he => decide_eq_true (h e he).1

theorem entries_listUnits_of_plain {es : List (List UInt16)} (h : ∀ e ∈ es, e ≠ [] ∧ 0 ∉ e) :
    entries (listUnits es) = es := by
  rw [← List.append_nil (listUnits es), entries_listUnits_append_of_plain h]

theorem entries_of_free {us : List UInt16} (free : 0 ∉ us) :
    entries us = if us = [] then [] else [us] := by
  rw [entries_eq_splitOn, List.splitOn_eq_singleton free]
  by_cases none : us = []
  · rw [if_pos none, List.takeWhile_cons_of_neg (by simpa using none)]
  · rw [if_neg none, List.takeWhile_cons_of_pos (by simpa using none), List.takeWhile_nil]

theorem entries_zero_cons (rest : List UInt16) : entries (0 :: rest) = [] := rfl

theorem entries_append {segment : List UInt16} (free : 0 ∉ segment) (filled : segment ≠ [])
    (rest : List UInt16) : entries (segment ++ 0 :: rest) = segment :: entries rest := by
  rw [entries_eq_splitOn, List.splitOn_append_cons_self_of_not_mem free,
    List.takeWhile_cons_of_pos (by simpa using filled), entries_eq_splitOn]

theorem entries_eq (us : List UInt16) :
    entries us =
      if stringUnits us = [] then []
      else stringUnits us :: entries (us.drop ((stringUnits us).length + 1)) := by
  by_cases zero : 0 ∈ us
  · obtain ⟨segment, rest, rfl, free⟩ := List.eq_append_cons_of_mem zero
    have behind : (segment ++ 0 :: rest).drop (segment.length + 1) = rest := by
      rw [← List.drop_drop, List.drop_left, List.drop_one, List.tail_cons]
    rw [stringUnits_append free, behind]
    by_cases none : segment = []
    · rw [if_pos none, none]
      exact entries_zero_cons rest
    · rw [if_neg none, entries_append free none]
  · rw [stringUnits_of_free zero, List.drop_eq_nil_of_le (Nat.le_succ _), entries_of_free zero]
    rfl

end CounterCatalog.Wire
