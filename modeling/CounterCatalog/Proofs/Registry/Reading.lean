import CounterCatalog.Proofs.Registry.Snapshot
import CounterCatalog.Wire.Content

set_option autoImplicit false

namespace CounterCatalog.Registry

open Query

/-- An honest registry: without a buffer it fails or tells the size; into a buffer whose length it
is told it writes the bytes if they fit, with their number and type, and else refuses. -/
structure Holds (system : System) (key : Int) (name : String) (type : UInt32)
    (bytes : List UInt8) : Prop where
  probe : ∀ past (r : ValueRequest), r.handle = key → r.name = name → r.data.buffer = none →
    (system past (.queryValue r)).status = 0 →
      (system past (.queryValue r)).data.size = some (.ofNat bytes.length)
  fits : ∀ past (r : ValueRequest) (b : Buffer), r.handle = key → r.name = name →
    r.data.buffer = some b → r.data.size.toNat = b.length → bytes.length ≤ b.length →
      (system past (.queryValue r)).status = 0 ∧
      (r.wantsType → (system past (.queryValue r)).type = some type) ∧
      (system past (.queryValue r)).data = { size := some (.ofNat bytes.length), data := bytes }
  tooLarge : ∀ past (r : ValueRequest) (b : Buffer), r.handle = key → r.name = name →
    r.data.buffer = some b → r.data.size.toNat = b.length → b.length < bytes.length →
      (system past (.queryValue r)).status = moreData

theorem Script.holds {s : Script} {type : UInt32} {bytes : List UInt8}
    (h : s.values = [.holding (some type) bytes]) {key : Int} {name : String} :
    Holds s.system key name type bytes := by
  have answers : ∀ past (r : ValueRequest), s.system past (.queryValue r) =
      (Script.ValueReply.holding (some type) bytes).answer r := by
    intro past r
    change (s.valueReply past).answer r = _
    rw [Script.valueReply, h]
    cases Script.count Script.takesValueReply past with
    | zero => rfl
    | succ n => rfl
  constructor
  · intro past r _ _ none _
    rw [answers, Script.ValueReply.answer, none]
  · intro past r b _ _ some _ fits
    rw [answers, Script.ValueReply.answer, some]
    dsimp only
    rw [if_pos fits]
    exact ⟨rfl, fun _ => rfl, rfl⟩
  · intro past r b _ _ some _ large
    rw [answers, Script.ValueReply.answer, some]
    dsimp only
    rw [if_neg (by omega)]

structure Reading.Gives (r : Reading) (wantsType : Bool) (held : UInt32)
    (bytes : List UInt8) : Prop where
  result : r.result = .ok ()
  bytes : r.buffer.toList = bytes
  type : wantsType → r.type = held

section Held
variable {p : Platform} {v : ValueName} {system : System} {held : UInt32} {bytes : List UInt8}
  {wantsType : Bool}

theorem Holds.answers (h : Holds system v.key (Text.beforeNul v.name) held bytes)
    {buffer : Buffer} (word : buffer.length < UInt32.size) (past : List Exchange) :
    Answers bytes (v.fetch wantsType buffer)
      (system past (.queryValue (v.fetch wantsType buffer))) := by
  have size := size_fetch v wantsType word
  constructor
  · intro fits
    obtain ⟨status, -, data⟩ := h.fits past (v.fetch wantsType buffer) buffer rfl rfl rfl size
      (by omega)
    exact ⟨status, data⟩
  · intro large
    exact h.tooLarge past (v.fetch wantsType buffer) buffer rfl rfl rfl size (by omega)

theorem Holds.typed (h : Holds system v.key (Text.beforeNul v.name) held bytes)
    {buffer : Buffer} (word : buffer.length < UInt32.size) (past : List Exchange)
    (status : (system past (.queryValue (v.fetch wantsType buffer))).status = 0)
    (wanted : wantsType) :
    (system past (.queryValue (v.fetch wantsType buffer))).type = some held := by
  have size := size_fetch v wantsType word
  obtain ⟨fits, -⟩ := (h.answers word past).fits_of_status word (by rw [status]; decide)
  exact (h.fits past (v.fetch wantsType buffer) buffer rfl rfl rfl size fits).2.1 wanted

theorem Rounds.type_of_ok {buffer : Buffer} {type : UInt32}
    {calls : List (ValueRequest × ValueReply)} {reading : Reading}
    (h : Rounds v wantsType buffer type calls reading) (wanted : wantsType)
    (typed : ∀ call ∈ calls, call.2.status = 0 → call.2.type = some held)
    (ok : reading.result = .ok ()) : reading.type = held := by
  induction h with
  | read reply status =>
    change typeAfter reply wantsType _ = held
    rw [typeAfter, if_pos wanted, typed _ List.mem_cons_self status]
    rfl
  | grown reply status within rest ih =>
    exact ih (fun call hc => typed call (List.mem_cons_of_mem _ hc)) ok
  | limited | failed => cases ok

theorem Holds.exists_taken (h : Holds system v.key (Text.beforeNul v.name) held bytes)
    (small : bytes.length ≤ sizeLimit) (past : List Exchange) :
    ∃ k, Taken (roomOf (system past (.queryValue v.probe))) (fun _ => bytes) k := by
  have limit : sizeLimit < UInt32.size := by decide
  rw [roomOf_eq_firstRoom (Nat.lt_of_le_of_lt small limit) (h.probe past v.probe rfl rfl rfl)]
  by_cases good : (system past (.queryValue v.probe)).status = 0
  · exact ⟨0, taken_zero (le_firstRoom good bytes)⟩
  · rw [firstRoom, if_neg fun both => good both.1]
    exact (exists_taken_firstSize_iff bytes).mpr small

theorem readInto_of_holds (h : Holds system v.key (Text.beforeNul v.name) held bytes)
    (small : bytes.length ≤ sizeLimit) (name : Text.isTerminable v.name) (wantsType : Bool)
    (buffer : Buffer) (past : List Exchange) :
    ((readInto p v wantsType buffer).run system past).value.Gives wantsType held bytes := by
  have limit : sizeLimit < UInt32.size := by decide
  have rounds := rounds_readInto p v system past name wantsType buffer
  have word := roomOf_lt (system past (.queryValue v.probe))
  -- Each call for data has the room that it is told, and was answered by the registry.
  have asked : ∀ call ∈ dataCalls ((readInto p v wantsType buffer).run system past).exchanges,
      Answers bytes call.1 call.2 ∧ (call.2.status = 0 → wantsType → call.2.type = some held) := by
    intro call hc
    obtain ⟨i, hi⟩ := List.mem_iff_getElem?.mp hc
    obtain ⟨b, fetched, -, size⟩ := rounds.room word i call hi
    obtain ⟨earlier, answered⟩ := (readInto_only v wantsType buffer).answered system past _
      (mem_dataCalls hc)
    have small : b.length < UInt32.size := size ▸ UInt32.toNat_lt _
    change call.2 = system earlier (.queryValue call.1) at answered
    rw [answered, fetched]
    exact ⟨h.answers small earlier, h.typed small earlier⟩
  obtain ⟨k, taken⟩ := h.exists_taken small past
  obtain ⟨ok, whole⟩ := (rounds.snapshot word (fun _ => Nat.lt_of_le_of_lt small limit)
    fun i call hi => (asked call (List.mem_of_getElem? hi)).1).1 k taken
  exact ⟨ok, whole, fun wanted => rounds.type_of_ok wanted
    (fun call hc status => (asked call hc).2 status wanted) ok⟩

theorem readValue_of_holds (h : Holds system v.key (Text.beforeNul v.name) held bytes)
    (small : bytes.length ≤ sizeLimit) (name : Text.isTerminable v.name)
    (past : List Exchange) : ∃ buffer : Buffer, buffer.toList = bytes ∧
      ((readValue p v true).run system past).value = .ok (buffer, held) := by
  have gives := readInto_of_holds (p := p) h small name true (.zeroed 0) past
  refine ⟨_, gives.bytes, ?_⟩
  rw [readValue, value_map, gives.result, ← gives.type rfl]
  rfl

theorem readStrings_of_holds (h : Holds system v.key (Text.beforeNul v.name) held bytes)
    (small : bytes.length ≤ sizeLimit) (name : Text.isTerminable v.name) (past : List Exchange) :
    ((readStrings p v).run system past).value =
      if held = multiString then
        .ok ((Wire.terminatedEntries (Encoding.wide.units bytes)).map Text.Utf16.decode)
      else .error (typeError held) := by
  obtain ⟨buffer, whole, read⟩ := readValue_of_holds (p := p) h small name past
  rw [readStrings, value_bind, read]
  dsimp only
  split
  · rw [value_pure, ← whole, ← buffer.terminatedEntries_content]
  · rfl

end Held

end CounterCatalog.Registry
