import CounterCatalog.Proofs.Registry.Growth

set_option autoImplicit false

namespace CounterCatalog.Registry

open Query

/-- A read that keeps the buffer it is given: it empties the buffer and fills it up with zeros. -/
def readReusing (p : Platform) (v : ValueName) (wantsType : Bool) (buffer : Buffer) :
    Query Reading :=
  if Text.isTerminable v.name then do
    let size ← startSize p v
    readGrowing p v wantsType 0 ((buffer.truncate 0).resize size.val)
      (by rw [Buffer.length_resize]; exact size.property)
  else pure { result := .error (invalidString "Registry value name" v.name), buffer, type := 0 }

theorem readGrowing_congr (p : Platform) (v : ValueName) (wantsType : Bool) (type : UInt32)
    {first second : Buffer} (same : first = second) (positive : 0 < first.length)
    (other : 0 < second.length) :
    readGrowing p v wantsType type first positive =
      readGrowing p v wantsType type second other := by
  subst same
  rfl

theorem readInto_eq_readReusing (p : Platform) (v : ValueName) (wantsType : Bool)
    (buffer : Buffer) : readInto p v wantsType buffer = readReusing p v wantsType buffer := by
  unfold readInto readReusing
  split
  · refine congrArg (startSize p v >>= ·) (funext fun size => ?_)
    exact readGrowing_congr p v wantsType 0 (buffer.resize_truncate_zero size.val).symm _ _
  · rfl

theorem written_or_kept {b : Buffer} {data : List UInt8} {i : Nat} {byte : UInt8}
    (there : (b.write data).toList[i]? = some byte) :
    b.toList[i]? = some byte ∨ data[i]? = some byte := by
  have inside : i < b.length := by
    obtain ⟨inside, -⟩ := List.getElem?_eq_some_iff.mp there
    rwa [Buffer.length_toList, Buffer.length_write] at inside
  rw [b.getElem?_write data inside] at there
  split at there
  · exact .inr there
  · exact .inl there

theorem zero_or_kept {b : Buffer} {n i : Nat} {byte : UInt8}
    (there : (b.resize n).toList[i]? = some byte) : byte = 0 ∨ b.toList[i]? = some byte := by
  have inside : i < n := by
    obtain ⟨inside, -⟩ := List.getElem?_eq_some_iff.mp there
    rwa [Buffer.length_toList, Buffer.length_resize] at inside
  rw [b.getElem?_resize inside, List.getD_eq_getElem?_getD] at there
  cases old : b.toList[i]? with
  | none =>
    rw [old] at there
    exact .inl (Option.some.inj there).symm
  | some kept =>
    rw [old] at there
    exact .inr there

/-- A byte of the buffer at the end of a read was there at its beginning, or a call wrote it, or it
is zero. -/
theorem Rounds.byte_written {v : ValueName} {wantsType : Bool} {buffer : Buffer} {type : UInt32}
    {calls : List (ValueRequest × ValueReply)} {reading : Reading}
    (h : Rounds v wantsType buffer type calls reading) {i : Nat} {byte : UInt8}
    (there : reading.buffer.toList[i]? = some byte) :
    byte = 0 ∨ buffer.toList[i]? = some byte ∨
      ∃ call ∈ calls, call.2.data.data[i]? = some byte := by
  induction h with
  | read reply status =>
    rcases zero_or_kept there with zero | filled
    · exact .inl zero
    · exact .inr ((written_or_kept filled).imp_right fun wrote =>
        ⟨_, List.mem_singleton_self _, wrote⟩)
  | grown reply status within rest ih =>
    rcases ih there with zero | start | ⟨call, later, wrote⟩
    · exact .inl zero
    · rcases zero_or_kept start with zero | filled
      · exact .inl zero
      · exact .inr ((written_or_kept filled).imp_right fun wrote => ⟨_, List.mem_cons_self, wrote⟩)
    · exact .inr (.inr ⟨call, List.mem_cons_of_mem _ later, wrote⟩)
  | limited reply | failed reply =>
    exact .inr ((written_or_kept there).imp_right fun wrote =>
      ⟨_, List.mem_singleton_self _, wrote⟩)

theorem byte_written_readInto (p : Platform) (v : ValueName) (wantsType : Bool) (buffer : Buffer)
    (system : System) (past : List Exchange) (name : Text.isTerminable v.name) {i : Nat}
    {byte : UInt8} :
    let read := (readInto p v wantsType buffer).run system past
    read.value.buffer.toList[i]? = some byte →
      byte = 0 ∨ ∃ call ∈ dataCalls read.exchanges, call.2.data.data[i]? = some byte := by
  intro read there
  rcases (rounds_readInto p v system past name wantsType buffer).byte_written there with
    zero | start | wrote
  · exact .inl zero
  · rw [Buffer.toList_zeroed] at start
    exact .inl (List.eq_of_mem_replicate (List.mem_of_getElem? start))
  · exact .inr wrote

theorem readInto_of_not_terminable {v : ValueName} (name : Text.isTerminable v.name = false)
    (p : Platform) (wantsType : Bool) (buffer : Buffer) :
    readInto p v wantsType buffer =
      pure
        { result := .error (invalidString "Registry value name" v.name), buffer, type := 0 } := by
  rw [readInto, if_neg (by rw [name]; decide)]

theorem readInto_of_terminable {v : ValueName} (name : Text.isTerminable v.name = true)
    (p : Platform) (wantsType : Bool) (first second : Buffer) :
    readInto p v wantsType first = readInto p v wantsType second := by
  rw [readInto, readInto, if_pos name, if_pos name]

/-- What a buffer held before a read makes no difference to the calls, to the result or to the bytes
that stand in it afterwards, each of which one of the calls wrote or is zero. -/
theorem readInto_forgets (p : Platform) (v : ValueName) (wantsType : Bool)
    (first second : Buffer) (system : System) (past : List Exchange) :
    let passes := Text.hasNul v.name = false ∨ ∃ t, Text.hasNul t = false ∧ v.name = t.push '\x00'
    let read := (readInto p v wantsType first).run system past
    let other := (readInto p v wantsType second).run system past
    readInto p v wantsType first = readReusing p v wantsType first ∧
    read.exchanges = other.exchanges ∧ read.log = other.log ∧
    read.value.result = other.value.result ∧
    (passes → read.value = other.value ∧
      ∀ (i : Nat) (byte : UInt8), read.value.buffer.toList[i]? = some byte →
        byte = 0 ∨ ∃ call ∈ dataCalls read.exchanges, call.2.data.data[i]? = some byte) ∧
    (¬ passes → read.exchanges = [] ∧ read.value.buffer = first ∧
      ∃ error, read.value.result = .error error ∧ error.status = invalidParameter) := by
  intro passes read other
  have can : Text.isTerminable v.name = true ↔ passes := Text.isTerminable_iff v.name
  refine ⟨readInto_eq_readReusing p v wantsType first, ?_⟩
  cases name : Text.isTerminable v.name with
  | true =>
    have same : read = other :=
      congrArg (·.run system past) (readInto_of_terminable name p wantsType first second)
    rw [same]
    refine ⟨rfl, rfl, rfl, fun _ => ⟨rfl, fun i byte => ?_⟩,
      fun stops => absurd (can.mp name) stops⟩
    exact byte_written_readInto p v wantsType second system past name
  | false =>
    have here : read = _ :=
      congrArg (·.run system past) (readInto_of_not_terminable name p wantsType first)
    have there : other = _ :=
      congrArg (·.run system past) (readInto_of_not_terminable name p wantsType second)
    rw [here, there]
    refine ⟨rfl, rfl, rfl, fun passes => ?_, fun _ => ⟨rfl, rfl, _, rfl, rfl⟩⟩
    exact absurd (can.mpr passes) (by rw [name]; decide)

theorem readInto_forgets_grown :
    let v : ValueName := { key := 1, name := "Counter" }
    let grown : Script :=
      { values :=
          [.fixed { status := 0, data := { size := some 2 } },
            .fixed { status := moreData, data := { data := [0xAA, 0xBB] } },
            .fixed { status := 0, data := { size := some 4, data := [1] } }] }
    let read := (readInto .windows v false (.ofList [7, 7, 7, 7, 7])).run grown.system []
    read.value = ((readInto .windows v false (.zeroed 0)).run grown.system []).value ∧
      read.value.buffer.toList = [1, 0xBB, 0, 0] := by
  intro v grown read
  obtain ⟨-, -, -, -, passed, -⟩ := readInto_forgets .windows v false (.ofList [7, 7, 7, 7, 7])
    (.zeroed 0) grown.system []
  exact ⟨(passed (.inl (by decide))).1, by decide +kernel⟩

/-- A name that ends with a NUL is not refused: the value is asked for, and the buffer is lost. -/
theorem trailing_nul_read :
    let v : ValueName := { key := 1, name := "Counter\x00" }
    let holding : Script := { values := [.holding none [1, 2]] }
    let read := (readInto .windows v false (.ofList [0xAA])).run holding.system []
    Text.hasNul v.name = true ∧ read.value.result.isOk = true ∧
      read.exchanges.map Exchange.call =
        [.queryValue v.probe, .queryValue (v.fetch false (.zeroed 2))] ∧
      read.value.buffer.toList = [1, 2] := by
  exact ⟨by decide, by decide +kernel, by decide +kernel, by decide +kernel⟩

end CounterCatalog.Registry
