import CounterCatalog.Proofs.Registry.Key
import CounterCatalog.Proofs.Registry.Rounds
import CounterCatalog.System.Script

set_option autoImplicit false

namespace CounterCatalog.Registry

open Query

def dataExchange (call : ValueRequest × ValueReply) : Exchange := ⟨.queryValue call.1, call.2⟩

/-- How the last call for data makes the read end. A size beyond the buffer counts for no more than
the buffer has. -/
structure Ends (call : ValueRequest × ValueReply) (reading : Reading) : Prop where
  ok : call.2.status = 0 → reading.result = .ok () ∧ ∃ room ∈ call.1.data.buffer,
    reading.buffer.length = min room.length (call.1.data.receive call.2.data).size.toNat
  error : call.2.status ≠ 0 →
    ∃ error, reading.result = .error error ∧ error.status = call.2.status

/-- The calls for data of a read, the first of which has room for so many bytes, and its end. -/
structure Growth (v : ValueName) (wantsType : Bool) (first : Nat)
    (calls : List (ValueRequest × ValueReply)) (reading : Reading) : Prop where
  asks : ∀ call ∈ calls, call.1.handle = v.key ∧ call.1.name = Text.beforeNul v.name ∧
    call.1.wantsType = wantsType
  room : ∀ i call, calls[i]? = some call → ∃ b : Buffer,
    call.1.data.buffer = some b ∧ b.length = first * 2 ^ i ∧
      call.1.data.size.toNat = first * 2 ^ i
  goesOn : ∀ i call, calls[i]? = some call →
    (i + 1 < calls.length ↔ call.2.status = moreData ∧ first * 2 ^ (i + 1) ≤ sizeLimit)
  ends : ∃ call ∈ calls.getLast?, Ends call reading

section Rounds
variable {v : ValueName} {wantsType : Bool} {buffer : Buffer} {type : UInt32}
  {calls : List (ValueRequest × ValueReply)} {reading : Reading}

theorem Rounds.length_pos (h : Rounds v wantsType buffer type calls reading) :
    0 < calls.length := by
  cases h <;> exact Nat.succ_pos _

theorem Rounds.goesOn (h : Rounds v wantsType buffer type calls reading) :
    ∀ i call, calls[i]? = some call →
      (i + 1 < calls.length ↔
        call.2.status = moreData ∧ buffer.length * 2 ^ (i + 1) ≤ sizeLimit) := by
  have last : ∀ {b : Buffer} {c : ValueRequest × ValueReply},
      ¬ (c.2.status = moreData ∧ 2 * b.length ≤ sizeLimit) → ∀ i call, [c][i]? = some call →
        (i + 1 < [c].length ↔
          call.2.status = moreData ∧ b.length * 2 ^ (i + 1) ≤ sizeLimit) := by
    intro b c stops i call hc
    cases i with
    | zero =>
      cases hc
      rw [Nat.zero_add, Nat.pow_one, Nat.mul_comm]
      exact ⟨fun more => absurd more (Nat.lt_irrefl 1), fun more => absurd more stops⟩
    | succ i => cases hc
  induction h with
  | read reply status =>
    refine last fun more => ?_
    rw [status] at more
    exact absurd more.1 (by decide)
  | limited reply status beyond => exact last fun more => absurd more.2 (Nat.not_le.mpr beyond)
  | failed reply error other => exact last fun more => other more.1
  | @grown buffer _ calls _ reply status within rest ih =>
    intro i call hc
    cases i with
    | zero =>
      cases hc
      have some := rest.length_pos
      rw [Nat.zero_add, Nat.pow_one, Nat.mul_comm, List.length_cons]
      exact ⟨fun _ => ⟨status, within⟩, fun _ => Nat.succ_lt_succ some⟩
    | succ i =>
      have later := ih i call hc
      rw [Buffer.length_resize] at later
      rw [List.length_cons, Nat.succ_lt_succ_iff, later, Nat.pow_succ' (n := i + 1)]
      have power : 2 * buffer.length * 2 ^ (i + 1) = buffer.length * (2 * 2 ^ (i + 1)) := by ac_rfl
      rw [power]

theorem Rounds.ends (h : Rounds v wantsType buffer type calls reading) :
    ∃ call ∈ calls.getLast?, Ends call reading := by
  induction h with
  | @read buffer type reply status =>
    refine ⟨(v.fetch wantsType buffer, reply), rfl, fun _ => ⟨rfl, buffer, rfl, ?_⟩,
      fun bad => absurd status bad⟩
    rw [Buffer.length_truncate, Buffer.length_write, Nat.min_comm]
    rfl
  | grown reply status within rest ih =>
    obtain ⟨call, last, ends⟩ := ih
    exact ⟨call, by rw [List.getLast?_cons, last]; rfl, ends⟩
  | @limited buffer type reply status beyond =>
    refine ⟨(v.fetch wantsType buffer, reply), rfl, fun good => ?_, fun _ => ⟨_, rfl, status.symm⟩⟩
    exact absurd (status.symm.trans good) (by decide)
  | @failed buffer type reply error other bad told =>
    exact ⟨(v.fetch wantsType buffer, reply), rfl, fun good => absurd good bad,
      fun _ => ⟨error, rfl, told⟩⟩

theorem Rounds.growth (h : Rounds v wantsType buffer type calls reading)
    (word : buffer.length < UInt32.size) :
    Growth v wantsType buffer.length calls reading where
  asks call made := by
    obtain ⟨i, hc⟩ := List.mem_iff_getElem?.mp made
    obtain ⟨b, fetched, -⟩ := h.room word i call hc
    rw [fetched]
    exact ⟨rfl, rfl, rfl⟩
  room i call hc := by
    obtain ⟨b, fetched, length, size⟩ := h.room word i call hc
    refine ⟨b, ?_, length, size.trans length⟩
    rw [fetched]
    rfl
  goesOn := h.goesOn
  ends := h.ends

end Rounds

/-- From a single byte on, the limit is met with the 27th call. -/
theorem Growth.length_le {v : ValueName} {wantsType : Bool} {first : Nat}
    {calls : List (ValueRequest × ValueReply)} {reading : Reading}
    (h : Growth v wantsType first calls reading) (positive : 0 < first) : calls.length ≤ 27 := by
  refine Nat.le_of_not_lt fun many => ?_
  have made : 26 < calls.length := by omega
  obtain ⟨-, within⟩ := (h.goesOn 26 calls[26] (List.getElem?_eq_getElem made)).mp many
  have beyond : sizeLimit < 2 ^ 27 := by decide
  have power : 2 ^ 27 ≤ first * 2 ^ 27 := Nat.le_mul_of_pos_left _ positive
  omega

theorem roomOf_pos (hint : ValueReply) : 0 < roomOf hint := by
  unfold roomOf
  split
  · next told => exact told.2
  · decide

section Asking
variable (p : Platform) (v : ValueName) (wantsType : Bool) (system : System)
  (past : List Exchange)

theorem ofKind_startSize : ofKind .registry ((startSize p v).run system past).exchanges =
    [⟨.queryValue v.probe, system past (.queryValue v.probe)⟩] := by
  have own := ofKind_singleton ⟨.queryValue v.probe, system past (.queryValue v.probe)⟩
  rw [exchanges_startSize, sizeHint, exchanges_bind, run_ask, ofKind_append]
  dsimp only
  split
  · rw [exchanges_pure, ofKind_nil, List.append_nil]
    exact own
  · rw [exchanges_map, CallError.ofKind_registry_ofCall, List.append_nil]
    exact own

theorem ofKind_readGrowing (type : UInt32) (buffer : Buffer) (positive : 0 < buffer.length) :
    ofKind .registry
        ((readGrowing p v wantsType type buffer positive).run system past).exchanges =
      (dataCalls ((readGrowing p v wantsType type buffer positive).run system
        past).exchanges).map dataExchange := by
  induction type, buffer, positive using readGrowing.induct v wantsType generalizing past with
  | case1 type buffer positive ih =>
    rw [readGrowing, exchanges_bind, run_ask, ofKind_append, dataCalls_append, List.map_append]
    congr 1
    dsimp only
    generalize system past (.queryValue (v.fetch wantsType buffer)) = reply
    split
    · split
      · next within =>
        rw [trace, exchanges_say_bind]
        exact ih reply within _
      · rfl
    · split
      · rfl
      · rw [exchanges_map, CallError.ofKind_registry_ofCall,
          dataCalls_of_messages (CallError.ofCall_only _ _)]
        rfl

theorem ofKind_readInto (name : Text.isTerminable v.name) (buffer : Buffer) :
    ofKind .registry ((readInto p v wantsType buffer).run system past).exchanges =
      ⟨.queryValue v.probe, system past (.queryValue v.probe)⟩ ::
        (dataCalls ((readInto p v wantsType buffer).run system past).exchanges).map
          dataExchange := by
  rw [readInto, if_pos name, exchanges_bind, ofKind_append, dataCalls_append, ofKind_startSize,
    dataCalls_startSize]
  exact congrArg (_ :: ·) (ofKind_readGrowing p v wantsType system _ 0 _ _)

end Asking

/-- A read makes at most 28 calls to the registry, however these are answered, each for data with
room twice that of the one before. The last one alone decides how the read ends. -/
theorem readInto_growth (p : Platform) (v : ValueName) (wantsType : Bool) (buffer : Buffer)
    (system : System) (past : List Exchange) (plain : Text.hasNul v.name = false) :
    let probe : ValueRequest :=
      { handle := v.key, name := v.name, wantsType := false, data := { buffer := none, size := 0 } }
    let hint : ValueReply := system past (.queryValue probe)
    let told := (hint.data.size.getD 0).toNat
    let first := if hint.status = 0 ∧ 0 < told then told else firstSize
    let read := (readInto p v wantsType buffer).run system past
    let calls := dataCalls read.exchanges
    ofKind .registry read.exchanges = ⟨.queryValue probe, hint⟩ :: calls.map dataExchange ∧
      (ofKind .registry read.exchanges).length ≤ 28 ∧
      Growth v wantsType first calls read.value ∧
      (read.value.result = .ok () ↔ ∃ call ∈ calls.getLast?, call.2.status = 0) := by
  intro probe hint told first read calls
  have name : Text.isTerminable v.name := Text.isTerminable_of_not_hasNul plain
  have same : v.probe = probe := by
    rw [ValueName.probe, Text.beforeNul_eq_self plain]
    rfl
  have order := ofKind_readInto p v wantsType system past name buffer
  have growth := (rounds_readInto p v system past name wantsType buffer).growth (roomOf_lt _)
  rw [same] at order growth
  change Growth v wantsType (roomOf hint) calls read.value at growth
  refine ⟨order, ?_, growth, ?_⟩
  · have few := growth.length_le (roomOf_pos hint)
    rw [order, List.length_cons, List.length_map]
    exact Nat.succ_le_succ few
  · obtain ⟨call, last, ends⟩ := growth.ends
    constructor
    · intro good
      by_cases status : call.2.status = 0
      · exact ⟨call, last, status⟩
      · obtain ⟨error, failed, -⟩ := ends.error status
        cases good.symm.trans failed
    · rintro ⟨other, also, status⟩
      cases Option.some.inj (last.symm.trans also)
      exact (ends.ok status).1

def boastful : Script where
  values :=
    [.fixed { status := 5 }, .fixed { status := moreData, data := { data := [0xAA] } },
      .fixed { status := 0, data := { size := some 0xFFFFFFFF, data := [1, 2] } }]

theorem readInto_growth_boastful :
    let v : ValueName := { key := 1, name := "Counter" }
    let read := (readInto .windows v false (.zeroed 3)).run boastful.system []
    (ofKind .registry read.exchanges).length ≤ 28 ∧ read.value.result = .ok () ∧
      read.value.buffer.length = 16384 := by
  intro v read
  obtain ⟨-, few, growth, -⟩ :=
    readInto_growth .windows v false (.zeroed 3) boastful.system [] (by decide)
  have calls : dataCalls read.exchanges =
      [(v.fetch false (.zeroed 8192), { status := moreData, data := { data := [0xAA] } }),
        (v.fetch false { lead := [0xAA], length := 16384 },
          { status := 0, data := { size := some 0xFFFFFFFF, data := [1, 2] } })] := by
    decide +kernel
  obtain ⟨call, last, ends⟩ := growth.ends
  rw [calls] at last
  cases last
  obtain ⟨good, room, passed, length⟩ := ends.ok rfl
  cases passed
  exact ⟨few, good, length⟩

end CounterCatalog.Registry
