import CounterCatalog.Wire.Buffer
import CounterCatalog.Wire.Encoding

set_option autoImplicit false

namespace CounterCatalog

namespace Wire

variable {us : List UInt16} {m n : Nat}

theorem stringUnits_append_zeros :
    stringUnits (us ++ List.replicate (m + 1) 0) = stringUnits (us ++ [0]) := by
  induction us with
  | nil => rfl
  | cons u us ih =>
    by_cases h : u = 0
    · subst h
      rfl
    · rw [List.cons_append, List.cons_append, stringUnits, stringUnits,
        List.takeWhile_cons_of_pos (by simpa using h),
        List.takeWhile_cons_of_pos (by simpa using h)]
      exact congrArg (u :: ·) ih

theorem entriesFrom_append_zeros (pending : List UInt16) :
    entriesFrom pending (us ++ List.replicate (m + 1) 0) = entriesFrom pending (us ++ [0]) := by
  induction us generalizing pending with
  | nil =>
    rw [List.nil_append, List.nil_append, List.replicate_succ, entriesFrom, entriesFrom,
      if_pos rfl, if_pos rfl]
    cases m <;> rfl
  | cons u us ih => simp only [List.cons_append, entriesFrom, ih]

theorem head?_append_zeros :
    (us ++ List.replicate (m + 1) (0 : UInt16)).head? = (us ++ [0]).head? := by
  cases us <;> rfl

theorem terminatedEntriesFrom_append_zeros (pending : List UInt16) :
    terminatedEntriesFrom pending (us ++ List.replicate (m + 1) 0) =
      terminatedEntriesFrom pending (us ++ [0]) := by
  induction us generalizing pending with
  | nil =>
    rw [List.nil_append, List.nil_append, List.replicate_succ, terminatedEntriesFrom,
      terminatedEntriesFrom, if_pos rfl, if_pos rfl]
    cases m <;> rfl
  | cons u us ih =>
    simp only [List.cons_append, terminatedEntriesFrom, ih, head?_append_zeros]

end Wire

namespace Encoding

theorem wideUnits_zeros (n : Nat) :
    wideUnits (List.replicate n 0) = List.replicate (n / 2) 0 := by
  induction n using Nat.strongRecOn with
  | ind n ih =>
    match n with
    | 0 | 1 => rfl
    | n + 2 =>
      rw [List.replicate_succ, List.replicate_succ, wideUnits, ih n (by omega),
        show (n + 2) / 2 = n / 2 + 1 by omega, List.replicate_succ]
      rfl

theorem wideUnits_append_zeros (bytes : List UInt8) :
    ∃ us, ∀ n, 3 ≤ n → ∃ m,
      wideUnits (bytes ++ List.replicate n 0) = us ++ List.replicate (m + 1) 0 := by
  induction bytes using wideUnits.induct with
  | case1 low high rest ih =>
    obtain ⟨us, h⟩ := ih
    refine ⟨.ofNat (low.toNat + 256 * high.toNat) :: us, fun n hn => ?_⟩
    obtain ⟨m, hm⟩ := h n hn
    exact ⟨m, by rw [List.cons_append, List.cons_append, wideUnits, hm, List.cons_append]⟩
  | case2 bytes short =>
    match bytes, short with
    | [], _ =>
      refine ⟨[], fun n hn => ⟨n / 2 - 1, ?_⟩⟩
      rw [List.nil_append, List.nil_append, wideUnits_zeros, Nat.sub_add_cancel (by omega)]
    | [byte], _ =>
      refine ⟨[.ofNat (byte.toNat + 256 * (0 : UInt8).toNat)], fun n hn => ⟨(n - 1) / 2 - 1, ?_⟩⟩
      obtain ⟨k, rfl⟩ : ∃ k, n = k + 1 := ⟨n - 1, by omega⟩
      rw [List.singleton_append, List.replicate_succ, wideUnits, wideUnits_zeros,
        Nat.sub_add_cancel (by omega), Nat.add_sub_cancel]
      rfl
    | low :: high :: rest, short => exact absurd rfl (short low high rest)

theorem units_append_zeros (e : Encoding) (bytes : List UInt8) :
    ∃ us, ∀ n, 3 ≤ n → ∃ m,
      e.units (bytes ++ List.replicate n 0) = us ++ List.replicate (m + 1) 0 := by
  cases e with
  | wide => exact wideUnits_append_zeros bytes
  | narrow =>
    refine ⟨bytes.map fun byte => byte.toUInt16, fun n hn => ⟨n - 1, ?_⟩⟩
    rw [units, List.map_append, List.map_replicate, Nat.sub_add_cancel (by omega)]
    rfl

end Encoding

namespace Buffer

/-- A reader that ignores all zeros behind a first one cannot tell the content from the bytes. -/
theorem read_content {α : Type} (b : Buffer) (e : Encoding) (read : List UInt16 → α)
    (blind : ∀ us m, read (us ++ List.replicate (m + 1) 0) = read (us ++ [0])) :
    read (e.units b.content) = read (e.units b.toList) := by
  rw [content, toList]
  by_cases few : b.length - b.lead.length ≤ 4
  · rw [Nat.min_eq_right few]
  · obtain ⟨us, h⟩ := e.units_append_zeros b.lead
    obtain ⟨m, hm⟩ := h (min 4 (b.length - b.lead.length)) (by omega)
    obtain ⟨k, hk⟩ := h (b.length - b.lead.length) (by omega)
    rw [hm, hk, blind, blind]

theorem stringUnits_content (b : Buffer) (e : Encoding) :
    Wire.stringUnits (e.units b.content) = Wire.stringUnits (e.units b.toList) :=
  b.read_content e Wire.stringUnits fun _ _ => Wire.stringUnits_append_zeros

theorem entries_content (b : Buffer) (e : Encoding) :
    Wire.entries (e.units b.content) = Wire.entries (e.units b.toList) :=
  b.read_content e Wire.entries fun _ _ => Wire.entriesFrom_append_zeros []

theorem terminatedEntries_content (b : Buffer) (e : Encoding) :
    Wire.terminatedEntries (e.units b.content) = Wire.terminatedEntries (e.units b.toList) :=
  b.read_content e Wire.terminatedEntries fun _ _ => Wire.terminatedEntriesFrom_append_zeros []

end Buffer

end CounterCatalog
