import CounterCatalog.Proofs.Query.Run
import CounterCatalog.Proofs.Text.CodePage
import CounterCatalog.Proofs.Wire.Encoding
import CounterCatalog.Proofs.Wire.Entries
import CounterCatalog.Wire.Content
import CounterCatalog.Wire.Reading

set_option autoImplicit false

namespace CounterCatalog

open Query

namespace Text

/-- What is left of a list of texts once it was written: their parts up to the first empty one. -/
def legible (texts : List String) : List String := (texts.flatMap pieces).takeWhile (· ≠ "")

theorem legible_of_plain {texts : List String} (h : ∀ s ∈ texts, s ≠ "" ∧ hasNul s = false) :
    legible texts = texts := by
  induction texts with
  | nil => rfl
  | cons s texts ih =>
    obtain ⟨filled, plain⟩ := h s List.mem_cons_self
    have rest := ih fun t ht => h t (List.mem_cons_of_mem _ ht)
    rw [legible, List.flatMap_cons, pieces_of_not_hasNul plain, List.singleton_append,
      List.takeWhile_cons_of_pos (by simpa using filled)]
    exact congrArg (s :: ·) rest

theorem map_decode_encode (texts : List String) :
    (texts.map Utf16.encode).map Utf16.decode = texts := by
  rw [List.map_map]
  calc texts.map (Utf16.decode ∘ Utf16.encode)
      = texts.map id := List.map_congr_left fun s _ => Utf16.decode_encode s
    _ = texts := List.map_id texts

end Text

structure System.Ansi1252 (system : System) : Prop where
  measures : ∀ past bytes, system past (.measureAnsi bytes) = bytes.length
  converts : ∀ past bytes capacity, bytes.length ≤ capacity →
    system past (.convertAnsi bytes capacity) = Text.Utf16.encode (Text.CodePage.decode bytes)

namespace Wire

theorem takeWhile_map_encode (texts : List String) :
    (texts.map Text.Utf16.encode).takeWhile (· ≠ []) =
      (texts.takeWhile (· ≠ "")).map Text.Utf16.encode := by
  induction texts with
  | nil => rfl
  | cons s texts ih =>
    by_cases h : s = ""
    · subst h
      rfl
    · have filled : Text.Utf16.encode s ≠ [] := fun none => h (Text.Utf16.encode_eq_nil.mp none)
      rw [List.map_cons, List.takeWhile_cons_of_pos (by simpa using filled),
        List.takeWhile_cons_of_pos (by simpa using h), List.map_cons, ih]

theorem entries_listUnits_encode (texts : List String) :
    entries (listUnits (texts.map Text.Utf16.encode)) =
      (Text.legible texts).map Text.Utf16.encode := by
  have parts : (texts.map Text.Utf16.encode).flatMap (·.splitOn 0) =
      (texts.flatMap Text.pieces).map Text.Utf16.encode := by
    rw [List.flatMap_map, List.map_flatMap]
    simp only [Text.Utf16.splitOn_encode]
  rw [entries_listUnits, parts, takeWhile_map_encode, Text.legible]

section Reads
variable (p : Platform) (system : System) (past : List Exchange)

theorem value_readEntries_wide (es : List (List UInt16)) :
    ((readEntries p .wide es).run system past).value = es.map Text.Utf16.decode := by
  induction es generalizing past with
  | nil => rfl
  | cons entry es ih =>
    rw [readEntries, value_bind, value_map, ih]
    rfl

theorem value_readList_wide (bytes : List UInt8) :
    ((readList p .wide bytes).run system past).value =
      (entries (Encoding.wide.units bytes)).map Text.Utf16.decode :=
  value_readEntries_wide p system past _

theorem value_readString_wide (bytes : List UInt8) :
    ((readString p .wide bytes).run system past).value.1 =
      Text.Utf16.decode (stringUnits (Encoding.wide.units bytes)) := rfl

end Reads

theorem value_readNarrow_of_ansi {system : System} (ansi : system.Ansi1252)
    (bytes : List UInt8) (past : List Exchange) :
    ((readNarrow .windows bytes).run system past).value = Text.CodePage.decode bytes := by
  unfold readNarrow
  by_cases none : bytes = []
  · subst none
    rfl
  · have some : bytes.length ≠ 0 := by simpa using none
    have length := Text.CodePage.length_utf16_decode bytes
    have units : Text.Utf16.encode (Text.CodePage.decode bytes) ≠ [] := by
      intro empty
      rw [empty] at length
      exact some length.symm
    simp only [if_neg none]
    rw [readAnsi, value_bind]
    generalize past ++ _ = measured
    rw [run_ask]
    dsimp only
    rw [ansi.measures, if_neg some, value_bind]
    generalize measured ++ _ = converted
    rw [run_ask]
    dsimp only
    rw [ansi.converts _ _ _ (Nat.le_refl _), if_neg units, value_pure, ← length, List.take_length,
      Text.Utf16.decode_encode]

theorem value_readString_of_ansi {system : System} (ansi : system.Ansi1252) {name : List UInt8}
    (free : 0 ∉ name) {buffer : Buffer} (written : name ++ [0] <+: buffer.toList)
    (past : List Exchange) :
    ((readString .windows .narrow buffer.content).run system past).value.1 =
      Text.CodePage.decode name := by
  obtain ⟨rest, bytes⟩ := written
  change ((readNarrow .windows (Encoding.narrow.bytes (stringUnits
    (Encoding.narrow.units buffer.content)))).run system past).value = _
  rw [value_readNarrow_of_ansi ansi, buffer.stringUnits_content, ← bytes,
    Encoding.stringUnits_narrow free]

end Wire

/-- The ANSI code page of the system keeps ASCII bytes as they are, unless it fails for them. -/
structure System.KeepsAscii (system : System) : Prop where
  measures : ∀ past bytes, (∀ byte ∈ bytes, byte < 0x80) →
    system past (.measureAnsi bytes) = 0 ∨ system past (.measureAnsi bytes) = bytes.length
  converts : ∀ past bytes capacity, (∀ byte ∈ bytes, byte < 0x80) → bytes.length ≤ capacity →
    system past (.convertAnsi bytes capacity) = [] ∨
      system past (.convertAnsi bytes capacity) = Encoding.narrow.units bytes

namespace Wire

def readPlain (bytes : List UInt8) : String :=
  (Text.Utf8.decode? bytes).getD (Text.CodePage.decode bytes)

theorem readPlain_of_ascii {bytes : List UInt8} (ascii : ∀ byte ∈ bytes, byte < 0x80) :
    readPlain bytes = Text.CodePage.decode bytes := by
  have read := Text.Utf8.decode?_encode (Text.CodePage.decode bytes)
  rw [(Text.CodePage.utf8_decode_eq_iff bytes).mpr ascii] at read
  rw [readPlain, read]
  rfl

theorem value_readNarrow_of_ascii {system : System} (keeps : system.KeepsAscii)
    {bytes : List UInt8} (ascii : ∀ byte ∈ bytes, byte < 0x80) (past : List Exchange) :
    ((readNarrow .windows bytes).run system past).value = readPlain bytes := by
  rw [readPlain_of_ascii ascii]
  unfold readNarrow
  by_cases none : bytes = []
  · subst none
    rfl
  · simp only [if_neg none]
    rw [readAnsi, value_bind, run_ask]
    dsimp only
    generalize past ++ _ = measured
    rcases keeps.measures past bytes ascii with failed | size
    · rw [if_pos failed]
      rfl
    · have some : bytes.length ≠ 0 := by simpa using none
      rw [size, if_neg some, value_bind, run_ask]
      dsimp only
      generalize measured ++ _ = converted
      rcases keeps.converts measured bytes bytes.length ascii (Nat.le_refl _) with failed | units
      · rw [if_pos failed]
        rfl
      · have whole : (Encoding.narrow.units bytes).length = bytes.length := List.length_map _
        have units_ne : Encoding.narrow.units bytes ≠ [] := by
          rwa [ne_eq, ← List.length_eq_zero_iff, whole]
        rw [units, if_neg units_ne, value_pure, ← whole, List.take_length]
        exact Text.CodePage.utf16_decode_of_ascii ascii

end Wire

end CounterCatalog
