import CounterCatalog.Proofs.Query.Run
import CounterCatalog.Proofs.Text.Numeral
import CounterCatalog.System.Script
import CounterCatalog.Table.Source
import Mathlib.Algebra.Group.Nat.Even
import Mathlib.Data.Nat.Find

set_option autoImplicit false

namespace CounterCatalog.Table

open Query Text.Numeral

variable {table : List String} {name text : String}

/-- Of the entries with this name the one at place `i` is the first, and this is its index. -/
structure FirstNamed (table : List String) (name : String) (i : Nat) (text : String) : Prop where
  index : table[2 * i]? = some text
  named : table[2 * i + 1]? = some name
  earlier : ∀ j < i, table[2 * j + 1]? ≠ some name

theorem pairs_of_short {rest : List String}
    (short : ∀ index other behind, rest = index :: other :: behind → False) :
    pairs rest = [] ∧ rest.length ≤ 1 := by
  rcases rest with - | ⟨index, - | ⟨other, rest⟩⟩
  · exact ⟨rfl, Nat.zero_le 1⟩
  · exact ⟨rfl, Nat.le_refl 1⟩
  · exact absurd rfl (short index other rest)

theorem indexText?_cons (index other : String) (rest : List String) :
    indexText? (index :: other :: rest) name =
      if other = name then some index else indexText? rest name := by
  rw [indexText?, pairs, List.find?_cons, indexText?]
  by_cases same : other = name
  · rw [if_pos same, beq_iff_eq.mpr same]
    rfl
  · rw [if_neg same, beq_eq_false_iff_ne.mpr same]

theorem FirstNamed.cons_iff {index other : String} {rest : List String} (ne : other ≠ name)
    (i : Nat) : FirstNamed (index :: other :: rest) name (i + 1) text ↔
      FirstNamed rest name i text := by
  constructor
  · rintro ⟨index, named, earlier⟩
    exact ⟨index, named, fun j hj => earlier (j + 1) (Nat.succ_lt_succ hj)⟩
  · rintro ⟨index, named, earlier⟩
    refine ⟨index, named, fun j hj => ?_⟩
    cases j with
    | zero => exact fun same => ne (Option.some.inj same)
    | succ j => exact earlier j (Nat.lt_of_succ_lt_succ hj)

theorem indexText?_eq_some_iff :
    indexText? table name = some text ↔ ∃ i, FirstNamed table name i text := by
  induction table using pairs.induct with
  | case1 index other rest ih =>
    rw [indexText?_cons]
    by_cases same : other = name
    · rw [if_pos same]
      constructor
      · intro own
        exact ⟨0, own, congrArg some same, fun j hj => absurd hj (Nat.not_lt_zero j)⟩
      · rintro ⟨i, first⟩
        cases i with
        | zero => exact first.index
        | succ i => exact absurd (congrArg some same) (first.earlier 0 (Nat.succ_pos i))
    · rw [if_neg same, ih]
      constructor
      · rintro ⟨i, first⟩
        exact ⟨i + 1, (FirstNamed.cons_iff same i).mpr first⟩
      · rintro ⟨i, first⟩
        cases i with
        | zero => exact absurd (Option.some.inj first.named) same
        | succ i => exact ⟨i, (FirstNamed.cons_iff same i).mp first⟩
  | case2 rest short =>
    obtain ⟨none, few⟩ := pairs_of_short short
    rw [indexText?, none]
    constructor
    · intro some
      cases some
    · rintro ⟨i, first⟩
      have named := first.named
      rw [List.getElem?_eq_none (by omega)] at named
      cases named

theorem exists_firstNamed {i : Nat} (named : table[2 * i + 1]? = some name) :
    ∃ j text, FirstNamed table name j text := by
  have some : ∃ j, table[2 * j + 1]? = some name := ⟨i, named⟩
  obtain ⟨inside, -⟩ := List.getElem?_eq_some_iff.mp (Nat.find_spec some)
  exact ⟨Nat.find some, _, List.getElem?_eq_getElem (by omega), Nat.find_spec some,
    fun j hj => Nat.find_min some hj⟩

theorem indexText?_eq_none_iff :
    indexText? table name = none ↔ ∀ i, table[2 * i + 1]? ≠ some name := by
  constructor
  · intro none i named
    obtain ⟨j, text, first⟩ := exists_firstNamed named
    cases none.symm.trans (indexText?_eq_some_iff.mpr ⟨j, first⟩)
  · intro unnamed
    cases found : indexText? table name with
    | none => rfl
    | some text =>
      obtain ⟨i, first⟩ := indexText?_eq_some_iff.mp found
      exact absurd first.named (unnamed i)

theorem indexOf_eq_iff {n : UInt32} (nonzero : n ≠ 0) :
    indexOf table name = n ↔
      ∃ i text, FirstNamed table name i text ∧ IsNumeral text n.toNat := by
  rw [indexOf]
  constructor
  · intro own
    cases read : (indexText? table name).bind word? with
    | none =>
      rw [read] at own
      exact absurd own.symm nonzero
    | some m =>
      obtain ⟨text, found, numeral⟩ := Option.bind_eq_some_iff.mp read
      obtain ⟨i, first⟩ := indexText?_eq_some_iff.mp found
      rw [read, Option.getD_some] at own
      exact ⟨i, text, first, word?_eq_some_iff.mp (own ▸ numeral)⟩
  · rintro ⟨i, text, first, numeral⟩
    rw [indexText?_eq_some_iff.mpr ⟨i, first⟩, Option.bind_some, word?_eq_some_iff.mpr numeral,
      Option.getD_some]

theorem value_findIndex (table : List String) (name : String) (system : System)
    (past : List Exchange) :
    ((findIndex table name).run system past).value = indexOf table name := by
  unfold findIndex
  split <;> rfl

theorem findIndex_congr {other : List String}
    (same : indexText? table name = indexText? other name) :
    findIndex table name = findIndex other name := by
  rw [findIndex, findIndex, complaint?, complaint?, indexOf, indexOf, same]

theorem pairs_append (whole : Even table.length) (more : List String) :
    pairs (table ++ more) = pairs table ++ pairs more := by
  induction table using pairs.induct with
  | case1 index other rest ih =>
    have even : Even rest.length := by simpa [Nat.even_add_one] using whole
    rw [List.cons_append, List.cons_append, pairs, pairs, ih even, List.cons_append]
  | case2 rest short =>
    obtain ⟨none, few⟩ := pairs_of_short short
    have nothing : rest = [] := by
      obtain ⟨n, twice⟩ := whole
      exact List.length_eq_zero_iff.mp (by omega)
    rw [none, nothing]
    rfl

theorem indexText?_append (whole : Even table.length) (more : List String) :
    indexText? (table ++ more) name = (indexText? table name).or (indexText? more name) := by
  rw [indexText?, pairs_append whole, List.find?_append, Option.map_or]
  rfl

/-- The first entry with a name decides on its index, which is zero unless the entry has a numeral
above zero of 32 bits. Entries behind others decide on the names that these have not. -/
theorem findIndex_decides (table : List String) (name : String) (system : System)
    (past : List Exchange) :
    let found := ((findIndex table name).run system past).value
    (∀ n : UInt32, n ≠ 0 →
      (found = n ↔ ∃ i text, FirstNamed table name i text ∧ IsNumeral text n.toNat)) ∧
    (∀ i text, FirstNamed table name i text →
      (∀ n, IsNumeral text n → n = 0 ∨ 2 ^ 32 ≤ n) → found = 0) ∧
    ((∀ i, table[2 * i + 1]? ≠ some name) → found = 0) ∧
    (Even table.length → (∀ last, findIndex (table ++ [last]) name = findIndex table name) ∧
      ∀ more,
        ((∃ i, table[2 * i + 1]? = some name) →
          findIndex (table ++ more) name = findIndex table name) ∧
        ((∀ i, table[2 * i + 1]? ≠ some name) →
          findIndex (table ++ more) name = findIndex more name)) := by
  intro found
  have own : found = indexOf table name := value_findIndex table name system past
  rw [own]
  refine ⟨fun n nonzero => indexOf_eq_iff nonzero, fun i text first unfit => ?_, fun unnamed => ?_,
    fun whole => ⟨fun last => ?_, fun more => ⟨fun known => ?_, fun unnamed => ?_⟩⟩⟩
  · by_contra nonzero
    obtain ⟨j, other, also, numeral⟩ := (indexOf_eq_iff nonzero).mp rfl
    have same : other = text := Option.some.inj
      ((indexText?_eq_some_iff.mpr ⟨j, also⟩).symm.trans (indexText?_eq_some_iff.mpr ⟨i, first⟩))
    rcases unfit _ (same ▸ numeral) with zero | large
    · exact nonzero (UInt32.toNat_inj.mp zero)
    · exact absurd (indexOf table name).toNat_lt (Nat.not_lt.mpr large)
  · rw [indexOf, indexText?_eq_none_iff.mpr unnamed]
    rfl
  · apply findIndex_congr
    rw [indexText?_append whole]
    exact Option.or_none
  · obtain ⟨i, named⟩ := known
    obtain ⟨j, text, first⟩ := exists_firstNamed named
    apply findIndex_congr
    rw [indexText?_append whole, indexText?_eq_some_iff.mpr ⟨j, first⟩, Option.some_or]
  · apply findIndex_congr
    rw [indexText?_append whole, indexText?_eq_none_iff.mpr unnamed, Option.none_or]

theorem findIndex_decides_signed :
    let table := ["System", "7", "+0042", "Memory", "8", "Memory"]
    ((findIndex table "Memory").run ({} : Script).system []).value = 42 ∧
      ((findIndex table "System").run ({} : Script).system []).value = 0 ∧
      findIndex (table ++ ["9"]) "Memory" = findIndex table "Memory" := by
  intro table
  have unnamed : ∀ i, table[2 * i + 1]? ≠ some "System" := by
    intro i
    match i with
    | 0 | 1 | 2 => decide
    | i + 3 => exact nofun
  refine ⟨?_, (findIndex_decides table "System" _ _).2.2.1 unnamed, ?_⟩
  · refine ((findIndex_decides table "Memory" _ _).1 42 (by decide)).mpr
      ⟨1, "+0042", ⟨rfl, rfl, by decide⟩, ['+'], ['0', '0', '4', '2'], rfl, .inr rfl, nofun,
        (all_isDigit_iff _).mp rfl, ?_⟩
    rw [← digitsValue_eq_ofDigits]
    rfl
  · exact ((findIndex_decides table "Memory" ({} : Script).system []).2.2.2 (by decide)).1 "9"

end CounterCatalog.Table
