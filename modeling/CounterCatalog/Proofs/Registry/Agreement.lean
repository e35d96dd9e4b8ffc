import CounterCatalog.Proofs.CallError.Alike

set_option autoImplicit false

namespace CounterCatalog

open Query

structure View.OfRegistry (v : View) : Prop where
  registry : ∀ call : Call, call.kind = .registry → v.call call = true
  hides : v.HidesMessages
  warnings : ∀ text other, v.line ⟨.warn, text⟩ = v.line ⟨.warn, other⟩

namespace Registry

/-- The two reads have come to the same point, up to what is said of an error. -/
structure Reading.Alike (reading : Reading) (es : List Exchange) (other : Reading) : Prop where
  result : ResultsAlike Eq es reading.result other.result
  buffer : reading.buffer = other.buffer
  type : reading.type = other.type

theorem Reading.Alike.mono {es fs : List Exchange} {reading other : Reading}
    (h : reading.Alike es other) (le : ∀ x ∈ es, x ∈ fs) : reading.Alike fs other where
  result := h.result.mono (fun _ _ => id) le
  buffer := h.buffer
  type := h.type

section Agreement
variable {v : View} {first second : System} (view : v.OfRegistry)
  (agree : System.Agree v first second) (p q : Platform)

include view agree

theorem agree_openForReading (parent : Int) (key : String) :
    Agree v first second (ResultsAlike Eq) (openForReading p parent key)
      (openForReading q parent key) := by
  refine .ite (fun _ => (Agree.ask agree (view.registry _ rfl)).bind ?_) fun _ => ?_
  · rintro _ reply _ ⟨rfl, rfl⟩
    refine .ite (fun _ => .pure (.ok rfl)) fun _ => ?_
    exact CallError.agree_failed view.hides p q _ List.mem_cons_self rfl _
  · exact .pure (.error (.same rfl))

theorem agree_close (handle : Int) :
    Agree v first second (ResultsAlike Eq) (close p handle) (close q handle) := by
  refine (Agree.ask agree (view.registry _ rfl)).bind ?_
  rintro _ status _ ⟨rfl, rfl⟩
  refine .ite (fun _ => .pure (.ok rfl)) fun _ => ?_
  exact CallError.agree_failed view.hides p q _ List.mem_cons_self rfl _

theorem agree_releaseKey (handle : Int) :
    Agree v first second (fun _ _ _ => True) (releaseKey p handle) (releaseKey q handle) := by
  refine (agree_close view agree p q handle).bind ?_
  rintro _ _ _ (_ | _)
  · exact .pure trivial
  · exact (Agree.say (view.warnings _ _)).mono fun _ _ _ _ => trivial

theorem agree_tryKey (parent : Int) (key : String) :
    Agree v first second (ResultsAlike Eq) (tryKey p parent key) (tryKey q parent key) := by
  refine (agree_openForReading view agree p q parent key).bind ?_
  rintro es _ _ (same | alike)
  · subst same
    refine (agree_releaseKey view agree p q _).bind fun _ _ _ _ => .pure (.ok rfl)
  · exact .pure (.error (alike.mono fun _ => List.mem_append_left _))

theorem agree_sizeHint (w : ValueName) :
    Agree v first second (ResultsAlike Eq) (sizeHint p w) (sizeHint q w) := by
  refine (Agree.ask agree (view.registry _ rfl)).bind ?_
  rintro _ reply _ ⟨rfl, rfl⟩
  refine .ite (fun _ => .pure (.ok rfl)) fun _ => ?_
  exact CallError.agree_failed view.hides p q _ List.mem_cons_self rfl _

theorem agree_startSize (w : ValueName) :
    Agree v first second (fun _ size other => size = other) (startSize p w) (startSize q w) := by
  refine (agree_sizeHint view agree p q w).bind ?_
  intro es result other alike
  cases alike with
  | @ok hint _ same =>
    subst same
    by_cases positive : 0 < hint.toNat
    · simp only [dif_pos positive]
      exact .pure rfl
    · simp only [dif_neg positive]
      exact .pure rfl
  | error => exact .said (view.warnings _ _) (.pure rfl)

theorem agree_readGrowing (w : ValueName) (wantsType : Bool) (type : UInt32) (buffer : Buffer)
    (positive : 0 < buffer.length) :
    Agree v first second (fun es reading => reading.Alike es)
      (readGrowing p w wantsType type buffer positive)
      (readGrowing q w wantsType type buffer positive) := by
  induction type, buffer, positive using readGrowing.induct w wantsType with
  | case1 type buffer positive ih =>
    rw [readGrowing, readGrowing]
    refine (Agree.ask agree (view.registry _ rfl)).bind ?_
    rintro _ reply _ ⟨rfl, rfl⟩
    refine .ite (fun _ => ?_) fun _ => .ite (fun _ => .pure ⟨.ok rfl, rfl, rfl⟩) fun _ => ?_
    · by_cases within : 2 * buffer.length ≤ sizeLimit
      · rw [dif_pos within, dif_pos within]
        refine .said rfl ((ih reply within).mono ?_)
        exact fun es _ _ alike => alike.mono fun _ => List.mem_cons_of_mem _
      · rw [dif_neg within, dif_neg within]
        exact .pure ⟨.error (.same rfl), rfl, rfl⟩
    · exact (CallError.agree_called view.hides p q
        (List.mem_singleton_self ⟨.queryValue (w.fetch wantsType buffer), reply⟩) rfl _).map
        fun _ _ _ alike => ⟨.error alike, rfl, rfl⟩

theorem agree_readInto (w : ValueName) (wantsType : Bool) (buffer : Buffer) :
    Agree v first second (fun es reading => reading.Alike es) (readInto p w wantsType buffer)
      (readInto q w wantsType buffer) := by
  refine .ite (fun _ => (agree_startSize view agree p q w).bind ?_) fun _ => ?_
  · rintro es size _ rfl
    refine (agree_readGrowing view agree p q w wantsType 0 _ size.property).mono ?_
    exact fun fs _ _ alike => alike.mono fun _ => List.mem_append_right es
  · exact .pure ⟨.error (.same rfl), rfl, rfl⟩

theorem agree_readValue (w : ValueName) (wantsType : Bool) :
    Agree v first second (ResultsAlike Eq) (readValue p w wantsType)
      (readValue q w wantsType) := by
  refine (agree_readInto view agree p q w wantsType _).map ?_
  rintro es ⟨result, buffer, type⟩ ⟨other, _, _⟩ ⟨alike, rfl, rfl⟩
  cases alike with
  | ok => exact .ok rfl
  | error alike => exact .error alike

theorem agree_readStrings (w : ValueName) :
    Agree v first second (ResultsAlike Eq) (readStrings p w) (readStrings q w) := by
  refine (agree_readValue view agree p q w true).bind ?_
  intro es result other alike
  cases alike with
  | @ok found _ same =>
    subst same
    exact .ite (fun _ => .pure (.ok rfl)) fun _ => .pure (.error (.same rfl))
  | error alike => exact .pure (.error (alike.mono fun _ => List.mem_append_left _))

end Agreement

end Registry

end CounterCatalog
