import CounterCatalog.Proofs.Registry.Rounds
import CounterCatalog.System.Script
import Mathlib.Data.Nat.Find

set_option autoImplicit false

namespace CounterCatalog.Registry

open Query

/-- An honest answer about the bytes: all of them and their number if there is room, and else
only that there is more, with whatever data and size. -/
structure Answers (bytes : List UInt8) (r : ValueRequest) (reply : ValueReply) : Prop where
  whole : bytes.length ≤ r.data.size.toNat →
    reply.status = 0 ∧ reply.data = { size := some (.ofNat bytes.length), data := bytes }
  short : r.data.size.toNat < bytes.length → reply.status = moreData

/-- Of calls with room for `first * 2 ^ i` bytes, the call `k` is the first that the bytes of its
moment fit, and is made. -/
structure Taken (first : Nat) (values : Nat → List UInt8) (k : Nat) : Prop where
  fits : (values k).length ≤ first * 2 ^ k
  earlier : ∀ j < k, first * 2 ^ j < (values j).length
  within : k = 0 ∨ first * 2 ^ k ≤ sizeLimit

section Taking
variable {first : Nat} {values : Nat → List UInt8}

theorem taken_zero (fits : (values 0).length ≤ first) : Taken first values 0 where
  fits := by omega
  earlier := by simp
  within := .inl rfl

theorem Taken.eq_zero {k : Nat} (h : Taken first values k) (fits : (values 0).length ≤ first) :
    k = 0 := by
  rcases k with - | k
  · rfl
  · have large := h.earlier 0 (Nat.succ_pos k)
    omega

theorem not_taken_of_limit (large : first < (values 0).length) (beyond : sizeLimit < 2 * first)
    (k : Nat) : ¬ Taken first values k := by
  intro h
  rcases k with - | k
  · have fits := h.fits
    omega
  · have within := h.within.resolve_left (by omega)
    have power : 2 * first ≤ first * 2 ^ (k + 1) := by
      rw [Nat.mul_comm]
      exact Nat.mul_le_mul_left first (Nat.le_self_pow (by omega) 2)
    omega

theorem taken_succ_iff (large : first < (values 0).length) (within : 2 * first ≤ sizeLimit)
    (k : Nat) :
    Taken first values (k + 1) ↔ Taken (2 * first) (fun i => values (i + 1)) k := by
  have power : ∀ j, first * 2 ^ (j + 1) = 2 * first * 2 ^ j := by
    intro j
    rw [Nat.pow_succ]
    ac_rfl
  constructor
  · intro h
    refine ⟨power k ▸ h.fits, fun j hj => power j ▸ h.earlier (j + 1) (by omega), .inr ?_⟩
    exact power k ▸ h.within.resolve_left (by omega)
  · intro h
    refine ⟨(power k).symm ▸ h.fits, fun j hj => ?_, .inr ?_⟩
    · cases j with
      | zero => simpa using large
      | succ j => exact (power j).symm ▸ h.earlier j (by omega)
    · rcases h.within with rfl | bound
      · omega
      · exact (power k).symm ▸ bound

theorem exists_taken {k : Nat} (fits : (values k).length ≤ first * 2 ^ k)
    (within : first * 2 ^ k ≤ sizeLimit) : ∃ j, Taken first values j := by
  have some : ∃ j, (values j).length ≤ first * 2 ^ j := ⟨k, fits⟩
  have least : Nat.find some ≤ k := Nat.find_le fits
  refine ⟨Nat.find some, Nat.find_spec some, fun j hj => ?_, .inr ?_⟩
  · exact Nat.lt_of_not_le (Nat.find_min some hj)
  · exact Nat.le_trans (Nat.mul_le_mul_left first (Nat.pow_le_pow_right (by omega) least)) within

theorem exists_taken_firstSize_iff (bytes : List UInt8) :
    (∃ k, Taken firstSize (fun _ => bytes) k) ↔ bytes.length ≤ sizeLimit := by
  constructor
  · rintro ⟨k, fits, -, within⟩
    rcases within with rfl | bound
    · exact Nat.le_trans fits (by decide)
    · exact Nat.le_trans fits bound
  · intro small
    have limit : firstSize * 2 ^ 13 = sizeLimit := rfl
    exact exists_taken (by rw [limit]; exact small) (Nat.le_of_eq limit)

end Taking

theorem toList_truncate_write {buffer : Buffer} {bytes : List UInt8}
    (fits : bytes.length ≤ buffer.length) :
    ((buffer.write bytes).truncate bytes.length).toList = bytes := by
  rw [Buffer.toList_truncate, Buffer.toList_write, List.take_of_length_le fits,
    List.take_left' rfl]

section Reads
variable {v : ValueName} {wantsType : Bool} {buffer : Buffer} {type : UInt32}
  {calls : List (ValueRequest × ValueReply)} {reading : Reading} {values : Nat → List UInt8}

theorem Answers.fits_of_status {bytes : List UInt8} {reply : ValueReply}
    (h : Answers bytes (v.fetch wantsType buffer) reply) (word : buffer.length < UInt32.size)
    (status : reply.status ≠ moreData) : bytes.length ≤ buffer.length ∧ reply.status = 0 ∧
      reply.data = { size := some (.ofNat bytes.length), data := bytes } := by
  have size := size_fetch v wantsType word
  have fits : bytes.length ≤ buffer.length :=
    Nat.le_of_not_lt fun large => status (h.short (by omega))
  exact ⟨fits, h.whole (by omega)⟩

theorem Answers.large_of_moreData {bytes : List UInt8} {reply : ValueReply}
    (h : Answers bytes (v.fetch wantsType buffer) reply) (word : buffer.length < UInt32.size)
    (status : reply.status = moreData) : buffer.length < bytes.length := by
  have size := size_fetch v wantsType word
  refine Nat.lt_of_not_le fun fits => ?_
  have good := (h.whole (by omega)).1
  rw [status] at good
  exact absurd good (by decide)

theorem Rounds.snapshot (h : Rounds v wantsType buffer type calls reading)
    (word : buffer.length < UInt32.size) (small : ∀ i, (values i).length < UInt32.size)
    (honest : ∀ i call, calls[i]? = some call → Answers (values i) call.1 call.2) :
    (∀ k, Taken buffer.length values k →
      reading.result = .ok () ∧ reading.buffer.toList = values k) ∧
    ((∀ k, ¬ Taken buffer.length values k) →
      ∃ error, reading.result = .error error ∧ error.status = moreData) := by
  induction h generalizing values with
  | @read buffer type reply status =>
    have own : Answers (values 0) (v.fetch wantsType buffer) reply := honest 0 _ rfl
    obtain ⟨fits, -, data⟩ := own.fits_of_status word (by rw [status]; decide)
    refine ⟨fun k taken => ?_, fun none => absurd (taken_zero fits) (none 0)⟩
    cases taken.eq_zero fits
    have number : (UInt32.ofNat (values 0).length).toNat = (values 0).length := by
      rw [UInt32.toNat_ofNat', Nat.mod_eq_of_lt (small 0)]
    refine ⟨rfl, ?_⟩
    rw [data]
    change ((buffer.write (values 0)).truncate (UInt32.ofNat (values 0).length).toNat).toList = _
    rw [number]
    exact toList_truncate_write fits
  | @grown buffer type calls reading reply status within rest ih =>
    have own : Answers (values 0) (v.fetch wantsType buffer) reply := honest 0 _ rfl
    have large := own.large_of_moreData word status
    -- The rounds behind the first are those of the values behind the first.
    have later := @ih (fun i => values (i + 1)) (Nat.lt_of_le_of_lt within (by decide))
      (fun i => small (i + 1)) fun i call hc => honest (i + 1) call hc
    rw [Buffer.length_resize] at later
    refine ⟨fun k taken => ?_, fun none => ?_⟩
    · cases k with
      | zero =>
        have fits := taken.fits
        omega
      | succ k => exact later.1 k ((taken_succ_iff large within k).mp taken)
    · exact later.2 fun k taken => none (k + 1) ((taken_succ_iff large within k).mpr taken)
  | @limited buffer type reply status beyond =>
    have own : Answers (values 0) (v.fetch wantsType buffer) reply := honest 0 _ rfl
    have large := own.large_of_moreData word status
    exact ⟨fun k taken => absurd taken (not_taken_of_limit large beyond k),
      fun _ => ⟨_, rfl, rfl⟩⟩
  | @failed buffer type reply error more status told =>
    have own : Answers (values 0) (v.fetch wantsType buffer) reply := honest 0 _ rfl
    exact absurd (own.fits_of_status word more).2.1 status

end Reads

def firstRoom (hint : ValueReply) (hinted : List UInt8) : Nat :=
  if hint.status = 0 ∧ 0 < hinted.length then hinted.length else firstSize

theorem le_firstRoom {hint : ValueReply} (good : hint.status = 0) (hinted : List UInt8) :
    hinted.length ≤ firstRoom hint hinted := by
  unfold firstRoom
  split
  · exact Nat.le_refl _
  · next none =>
    have empty : ¬ 0 < hinted.length := fun some => none ⟨good, some⟩
    omega

theorem roomOf_eq_firstRoom {hint : ValueReply} {hinted : List UInt8}
    (small : hinted.length < UInt32.size)
    (told : hint.status = 0 → hint.data.size = some (.ofNat hinted.length)) :
    roomOf hint = firstRoom hint hinted := by
  unfold roomOf firstRoom
  by_cases good : hint.status = 0
  · rw [told good, Option.getD_some, UInt32.toNat_ofNat', Nat.mod_eq_of_lt small]
  · rw [if_neg fun both => good both.1, if_neg fun both => good both.1]

section Snapshot
variable {first : Nat} {values : Nat → List UInt8}
  {read : Observed (Except CallError (Buffer × UInt32))}

end Snapshot

section Asking
variable (p : Platform) (v : ValueName) (wantsType : Bool) (system : System)
  (past : List Exchange)

end Asking

end CounterCatalog.Registry
