import CounterCatalog.Proofs.CallError.Status
import CounterCatalog.Proofs.Query.Calls
import Mathlib.Algebra.Group.Nat.Defs

set_option autoImplicit false

namespace CounterCatalog

open Query

def Exchange.dataCall? : Exchange → Option (ValueRequest × ValueReply)
  | ⟨.queryValue request, reply⟩ =>
    if request.data.buffer.isSome then some (request, reply) else none
  | _ => none

def dataCalls (es : List Exchange) : List (ValueRequest × ValueReply) :=
  es.filterMap Exchange.dataCall?

theorem dataCalls_append (es fs : List Exchange) :
    dataCalls (es ++ fs) = dataCalls es ++ dataCalls fs := List.filterMap_append

theorem dataCalls_of_messages {α : Type} {q : Query α} (h : Only (·.kind = .messages) q)
    (system : System) (past : List Exchange) : dataCalls (q.run system past).exchanges = [] := by
  apply List.filterMap_eq_nil_iff.mpr
  intro e he
  have messages := h.allows system past e he
  obtain ⟨call, reply⟩ := e
  cases call <;> first | rfl | cases messages

theorem mem_dataCalls {es : List Exchange} {call : ValueRequest × ValueReply}
    (h : call ∈ dataCalls es) : (⟨.queryValue call.1, call.2⟩ : Exchange) ∈ es := by
  obtain ⟨e, he, own⟩ := List.mem_filterMap.mp h
  obtain ⟨asked, reply⟩ := e
  cases asked with
  | queryValue request =>
    change (if request.data.buffer.isSome then some (request, reply) else none) = some call at own
    split at own
    · cases own
      exact he
    · cases own
  | _ => cases own

namespace Registry

theorem size_fetch (v : ValueName) (wantsType : Bool) {buffer : Buffer}
    (word : buffer.length < UInt32.size) :
    (v.fetch wantsType buffer).data.size.toNat = buffer.length := by
  change (UInt32.ofNat buffer.length).toNat = _
  rw [UInt32.toNat_ofNat', Nat.mod_eq_of_lt word]

def typeAfter (reply : ValueReply) (wantsType : Bool) (type : UInt32) : UInt32 :=
  if wantsType then reply.type.getD type else type

/-- The calls of a growing read and the reading that it ends with. -/
inductive Rounds (v : ValueName) (wantsType : Bool) :
    Buffer → UInt32 → List (ValueRequest × ValueReply) → Reading → Prop where
  | read {buffer : Buffer} {type : UInt32} (reply : ValueReply) (status : reply.status = 0) :
      Rounds v wantsType buffer type [(v.fetch wantsType buffer, reply)]
        { result := .ok ()
          buffer := (buffer.write reply.data.data).truncate
            (reply.data.size.getD (.ofNat buffer.length)).toNat
          type := typeAfter reply wantsType type }
  | grown {buffer : Buffer} {type : UInt32} {calls : List (ValueRequest × ValueReply)}
      {reading : Reading} (reply : ValueReply) (status : reply.status = moreData)
      (within : 2 * buffer.length ≤ sizeLimit)
      (rest : Rounds v wantsType ((buffer.write reply.data.data).resize (2 * buffer.length))
        (typeAfter reply wantsType type) calls reading) :
      Rounds v wantsType buffer type ((v.fetch wantsType buffer, reply) :: calls) reading
  | limited {buffer : Buffer} {type : UInt32} (reply : ValueReply)
      (status : reply.status = moreData) (beyond : sizeLimit < 2 * buffer.length) :
      Rounds v wantsType buffer type [(v.fetch wantsType buffer, reply)]
        { result := .error (limitError (2 * buffer.length))
          buffer := buffer.write reply.data.data
          type := typeAfter reply wantsType type }
  | failed {buffer : Buffer} {type : UInt32} (reply : ValueReply) (error : CallError)
      (more : reply.status ≠ moreData) (status : reply.status ≠ 0)
      (told : error.status = reply.status) :
      Rounds v wantsType buffer type [(v.fetch wantsType buffer, reply)]
        { result := .error error
          buffer := buffer.write reply.data.data
          type := typeAfter reply wantsType type }

theorem rounds_readGrowing (p : Platform) (v : ValueName) (wantsType : Bool) (type : UInt32)
    (buffer : Buffer) (positive : 0 < buffer.length) (system : System) (past : List Exchange) :
    Rounds v wantsType buffer type
      (dataCalls ((readGrowing p v wantsType type buffer positive).run system past).exchanges)
      ((readGrowing p v wantsType type buffer positive).run system past).value := by
  induction type, buffer, positive using readGrowing.induct v wantsType generalizing past with
  | case1 type buffer positive ih =>
    rw [readGrowing, exchanges_bind, value_bind, run_ask, dataCalls_append]
    change Rounds v wantsType buffer type ((v.fetch wantsType buffer, _) :: _) _
    dsimp only
    generalize system past (.queryValue (v.fetch wantsType buffer)) = reply
    split
    · next more =>
      split
      · next within =>
        rw [trace, exchanges_say_bind, value_say_bind]
        exact .grown reply more within (ih reply within _)
      · next beyond => exact .limited reply more (by omega)
    · next other =>
      split
      · next good => exact .read reply good
      · next bad =>
        rw [exchanges_map, dataCalls_of_messages (CallError.ofCall_only _ _), value_map]
        exact .failed reply _ other bad (CallError.status_ofCall _ _ _ _ _)

theorem Rounds.room {v : ValueName} {wantsType : Bool} {buffer : Buffer} {type : UInt32}
    {calls : List (ValueRequest × ValueReply)} {reading : Reading}
    (h : Rounds v wantsType buffer type calls reading) (word : buffer.length < UInt32.size) :
    ∀ i call, calls[i]? = some call → ∃ b : Buffer,
      call.1 = v.fetch wantsType b ∧ b.length = buffer.length * 2 ^ i ∧
        call.1.data.size.toNat = b.length := by
  have last : ∀ (b : Buffer) (reply : ValueReply), b.length < UInt32.size →
      ∀ i call, [(v.fetch wantsType b, reply)][i]? = some call → ∃ c : Buffer,
        call.1 = v.fetch wantsType c ∧ c.length = b.length * 2 ^ i ∧
          call.1.data.size.toNat = c.length := by
    intro b reply small i call hc
    cases i with
    | zero =>
      cases hc
      exact ⟨b, rfl, by omega, size_fetch v wantsType small⟩
    | succ i => cases hc
  induction h with
  | read reply | limited reply | failed reply => exact last _ reply word
  | grown reply status within rest ih =>
    intro i call hc
    cases i with
    | zero => exact last _ reply word 0 call hc
    | succ i =>
      obtain ⟨b, fetched, length, size⟩ := ih (Nat.lt_of_le_of_lt within (by decide)) i call hc
      refine ⟨b, fetched, ?_, size⟩
      rw [length, Buffer.length_resize, Nat.pow_succ]
      grind

def roomOf (hint : ValueReply) : Nat :=
  if hint.status = 0 ∧ 0 < (hint.data.size.getD 0).toNat then (hint.data.size.getD 0).toNat
  else firstSize

theorem roomOf_lt (hint : ValueReply) : roomOf hint < UInt32.size := by
  unfold roomOf
  split
  · exact UInt32.toNat_lt _
  · decide

section Starting
variable (p : Platform) (v : ValueName) (system : System) (past : List Exchange)

theorem val_startSize : ((startSize p v).run system past).value.val =
    roomOf (system past (.queryValue v.probe)) := by
  rw [startSize, value_bind, sizeHint, value_bind, run_ask, roomOf]
  dsimp only
  generalize system past (.queryValue v.probe) = hint
  by_cases good : hint.status = 0
  · have size : (v.probe.data.receive hint.data).size = hint.data.size.getD 0 := rfl
    rw [if_pos good, value_pure, size]
    dsimp only
    by_cases some : 0 < (hint.data.size.getD 0).toNat
    · rw [dif_pos some, if_pos ⟨good, some⟩]
      rfl
    · rw [dif_neg some, if_neg fun both => some both.2]
      rfl
  · rw [if_neg good, value_map, if_neg fun both => good both.1]
    dsimp only
    rw [warn, value_say_bind]
    rfl

theorem dataCalls_startSize : dataCalls ((startSize p v).run system past).exchanges = [] := by
  rw [exchanges_startSize, sizeHint, exchanges_bind, run_ask, dataCalls_append]
  dsimp only
  split
  · rfl
  · rw [exchanges_map, dataCalls_of_messages (CallError.ofCall_only _ _)]
    rfl

theorem rounds_readInto (name : Text.isTerminable v.name) (wantsType : Bool) (buffer : Buffer) :
    Rounds v wantsType (.zeroed (roomOf (system past (.queryValue v.probe)))) 0
      (dataCalls ((readInto p v wantsType buffer).run system past).exchanges)
      ((readInto p v wantsType buffer).run system past).value := by
  rw [readInto, if_pos name, exchanges_bind, value_bind, dataCalls_append,
    dataCalls_startSize, ← val_startSize p]
  exact rounds_readGrowing p v wantsType 0 _ _ system _

end Starting

end Registry

end CounterCatalog
