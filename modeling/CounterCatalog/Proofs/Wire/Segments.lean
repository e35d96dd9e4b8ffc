import CounterCatalog.Wire.Encoding
import Mathlib.Data.List.TakeWhile

set_option autoImplicit false

namespace CounterCatalog.Wire

variable {us segment : List UInt16}

theorem segments_induction {P : List UInt16 → Prop} (last : ∀ us, 0 ∉ us → P us)
    (terminated : ∀ segment rest, 0 ∉ segment → P rest → P (segment ++ 0 :: rest))
    (us : List UInt16) : P us := by
  induction h : us.length using Nat.strongRecOn generalizing us with
  | ind n ih =>
    by_cases zero : 0 ∈ us
    · obtain ⟨segment, rest, rfl, free⟩ := List.eq_append_cons_of_mem zero
      have shorter : rest.length < n := by
        rw [← h, List.length_append, List.length_cons]
        omega
      exact terminated segment rest free (ih _ shorter rest rfl)
    · exact last us zero

theorem zero_not_mem_of_mem_splitOn (h : segment ∈ us.splitOn 0) : 0 ∉ segment := by
  induction us using segments_induction with
  | last us free =>
    rw [List.splitOn_eq_singleton free, List.mem_singleton] at h
    exact h ▸ free
  | terminated first rest free ih =>
    rw [List.splitOn_append_cons_self_of_not_mem free] at h
    rcases List.mem_cons.mp h with same | later
    · exact same ▸ free
    · exact ih later

theorem takeWhile_append_nil_cons (before behind : List (List UInt16)) :
    (before ++ [] :: behind).takeWhile (· ≠ []) = before.takeWhile (· ≠ []) := by
  induction before with
  | nil => rfl
  | cons segment before ih =>
    by_cases h : segment = []
    · subst h
      rfl
    · rw [List.cons_append, List.takeWhile_cons_of_pos (by simpa using h),
        List.takeWhile_cons_of_pos (by simpa using h), ih]

theorem stringUnits_of_free (free : 0 ∉ us) : stringUnits us = us := by
  rw [stringUnits, List.takeWhile_eq_self_iff]
  exact fun unit hu => decide_eq_true fun zero => free (zero ▸ hu)

theorem stringUnits_append (free : 0 ∉ segment) (rest : List UInt16) :
    stringUnits (segment ++ 0 :: rest) = segment := by
  have inside : ∀ unit ∈ segment, decide (unit ≠ 0) = true :=
    fun unit hu => decide_eq_true fun zero => free (zero ▸ hu)
  rw [stringUnits, List.takeWhile_append_of_pos inside, List.takeWhile_cons_of_neg (by simp),
    List.append_nil]

theorem zero_not_mem_stringUnits (us : List UInt16) : 0 ∉ stringUnits us := by
  intro zero
  simpa using List.mem_takeWhile_imp zero

end CounterCatalog.Wire
