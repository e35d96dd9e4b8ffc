import CounterCatalog.Proofs.Text.Numeral
import CounterCatalog.Table.Source

set_option autoImplicit false

namespace CounterCatalog.Table

def listing (entries : List (UInt32 × String)) : List String :=
  entries.flatMap fun e => [Text.Numeral.decimal e.1.toNat, e.2]

theorem pairs_listing (entries : List (UInt32 × String)) :
    pairs (listing entries) = entries.map fun e => (Text.Numeral.decimal e.1.toNat, e.2) := by
  induction entries with
  | nil => rfl
  | cons e entries ih =>
    change (Text.Numeral.decimal e.1.toNat, e.2) :: pairs (listing entries) = _
    rw [ih, List.map_cons]

theorem indexText?_listing (entries : List (UInt32 × String)) (name : String) :
    indexText? (listing entries) name =
      (entries.find? fun e => e.2 == name).map fun e => Text.Numeral.decimal e.1.toNat := by
  rw [indexText?, pairs_listing, List.find?_map, Option.map_map]
  rfl

theorem indexOf_listing (entries : List (UInt32 × String)) (name : String) :
    indexOf (listing entries) name =
      ((entries.find? fun e => e.2 == name).map Prod.fst).getD 0 := by
  rw [indexOf, indexText?_listing]
  cases entries.find? fun e => e.2 == name with
  | none => rfl
  | some e =>
    change (Text.Numeral.word? (Text.Numeral.decimal e.1.toNat)).getD 0 = e.1
    rw [Text.Numeral.word?_decimal, Option.getD_some]

theorem indexOf_listing_of_unlisted {entries : List (UInt32 × String)} {name : String}
    (unlisted : ∀ e ∈ entries, e.2 ≠ name) : indexOf (listing entries) name = 0 := by
  have none : entries.find? (fun e => e.2 == name) = none :=
    List.find?_eq_none.mpr fun e he => by simpa using unlisted e he
  rw [indexOf_listing, none]
  rfl

theorem indexOf_listing_first {earlier later : List (UInt32 × String)} {index : UInt32}
    {name : String} (first : ∀ e ∈ earlier, e.2 ≠ name) :
    indexOf (listing (earlier ++ (index, name) :: later)) name = index := by
  have none : earlier.find? (fun e => e.2 == name) = none :=
    List.find?_eq_none.mpr fun e he => by simpa using first e he
  have here : ((index, name) :: later).find? (fun e => e.2 == name) = some (index, name) :=
    List.find?_cons_of_pos (by simp)
  rw [indexOf_listing, List.find?_append, none, Option.none_or, here]
  rfl

example : indexOf (listing [(7, "2"), (2, "System"), (9, "System")]) "2" = 7 ∧
    indexOf (listing [(7, "2"), (2, "System"), (9, "System")]) "System" = 2 := by decide

end CounterCatalog.Table
