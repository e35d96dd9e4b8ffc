import CounterCatalog.Proofs.Query.Explained

set_option autoImplicit false

namespace CounterCatalog.Registry

open Query

variable {probed : Bool}

section Calls

theorem calls_openKey (parent : Int) (key : String) (access : UInt32) :
    (ask (.openKey parent key access)).Calls probed probed OpenReply.status (· = 0) :=
  .ask (fun _ => rfl) rfl fun _ => Iff.rfl

theorem calls_closeKey (handle : Int) :
    (ask (.closeKey handle)).Calls probed probed
      (fun status : (Call.closeKey handle).Reply => status) (· = 0) :=
  .ask (fun _ => rfl) rfl fun _ => Iff.rfl

theorem calls_queryValue (r : ValueRequest) :
    (ask (.queryValue r)).Calls probed probed ValueReply.status
      (fun status => status = 0 ∨ r.data.buffer ≠ none ∧ status = moreData) :=
  .ask (fun _ => rfl) rfl fun _ => Iff.rfl

end Calls

theorem openForReading_explains (parent : Int) (key : String) :
    (openForReading .windows parent key).Explains probed probed := by
  unfold openForReading
  split
  · refine (calls_openKey _ _ _).explains (fun reply good => ?_) fun reply bad => ?_
    · rw [if_pos good]
      exact .pure _
    · rw [if_neg bad]
      exact (CallError.ofCall_asksOnce _ _).map _
  · exact .pure _

theorem close_explains (handle : Int) : (close .windows handle).Explains probed probed := by
  refine (calls_closeKey handle).explains (fun status good => ?_) fun status bad => ?_
  · rw [if_pos good]
    exact .pure _
  · rw [if_neg bad]
    exact (CallError.ofCall_asksOnce _ _).map _

theorem releaseKey_explains (handle : Int) :
    (releaseKey .windows handle).Explains probed probed := by
  refine (close_explains handle).bind fun result => ?_
  cases result with
  | ok _ => exact .pure _
  | error _ => exact .say _ _

theorem tryKey_explains (parent : Int) (key : String) :
    (tryKey .windows parent key).Explains probed probed := by
  refine (openForReading_explains parent key).bind fun result => ?_
  cases result with
  | error _ => exact .pure _
  | ok handle => exact (releaseKey_explains handle).map _

section Reads
variable (v : ValueName) (wantsType : Bool)

theorem sizeHint_explains : (sizeHint .windows v).Explains probed probed := by
  refine (calls_queryValue v.probe).explains (fun reply good => ?_) fun reply bad => ?_
  · rw [if_pos (good.resolve_right fun more => more.1 rfl)]
    exact .pure _
  · rw [if_neg fun good => bad (.inl good)]
    exact (CallError.ofCall_asksOnce _ _).map _

theorem startSize_explains : (startSize .windows v).Explains probed probed := by
  intro system past
  rw [exchanges_startSize]
  exact sizeHint_explains v system past

theorem readGrowing_explains (type : UInt32) (buffer : Buffer) (positive : 0 < buffer.length) :
    (readGrowing .windows v wantsType type buffer positive).Explains probed probed := by
  induction type, buffer, positive using readGrowing.induct v wantsType with
  | case1 type buffer positive ih =>
    rw [readGrowing]
    refine (calls_queryValue _).explains (fun reply good => ?_) fun reply bad => ?_
    · dsimp only
      split
      · split
        · next within =>
          exact (Explains.say _ _).bind fun _ => ih reply within
        · exact .pure _
      · next fits =>
        rw [if_pos (good.resolve_right fun more => fits more.2)]
        exact .pure _
    · have other : reply.status ≠ moreData := fun more =>
        bad (.inr ⟨Option.some_ne_none _, more⟩)
      dsimp only
      rw [if_neg other, if_neg fun good => bad (.inl good)]
      exact (CallError.ofCall_asksOnce _ _).map _

theorem readInto_explains (buffer : Buffer) :
    (readInto .windows v wantsType buffer).Explains probed probed := by
  unfold readInto
  split
  · exact (startSize_explains v).bind fun size => readGrowing_explains v wantsType _ _ _
  · exact .pure _

theorem readValue_explains : (readValue .windows v wantsType).Explains probed probed :=
  (readInto_explains v wantsType _).map _

theorem readStrings_explains : (readStrings .windows v).Explains probed probed := by
  intro system past
  rw [exchanges_readStrings]
  exact readInto_explains v true _ system past

end Reads

def ValueName.hint (v : ValueName) (system : System) (past : List Exchange) : ValueReply :=
  system past (.queryValue {
    handle := v.key
    name := Text.beforeNul v.name
    wantsType := false
    data := { buffer := none, size := 0 } })

/-- A read asks for the message of a size hint that fails, and for no other. -/
structure AsksForHint (v : ValueName) (system : System) (past es : List Exchange) : Prop where
  asked : Text.isTerminable v.name → (v.hint system past).status ≠ 0 →
    AsksMessage (v.hint system past).status (ofKind .messages es)
  unasked : (Text.isTerminable v.name → (v.hint system past).status = 0) → ofKind .messages es = []

theorem openForReading_refused {key : String} (nul : ¬ Text.isTerminable key) (parent : Int)
    (system : System) (past : List Exchange) :
    ((openForReading .windows parent key).run system past).Refused := by
  rw [openForReading, if_neg nul]
  exact ⟨_, .string _ _, rfl, rfl⟩

theorem readValue_refused {v : ValueName} (nul : ¬ Text.isTerminable v.name) (wantsType : Bool)
    (system : System) (past : List Exchange) :
    ((readValue .windows v wantsType).run system past).Refused := by
  rw [readValue, readInto, if_neg nul]
  exact ⟨_, .string _ _, rfl, rfl⟩

theorem openForReading_uncalled {parent : Int} {key : String} {system : System}
    {past : List Exchange} {e : CallError} (uncalled : e.Uncalled)
    (failed : ((openForReading .windows parent key).run system past).value = .error e) :
    ((openForReading .windows parent key).run system past).exchanges = [] := by
  by_cases name : Text.isTerminable key
  · have tells : (openForReading .windows parent key).Tells := by
      rw [openForReading, if_pos name]
      refine .bind fun reply => ?_
      split
      · exact .ok _
      · exact .ofCall _ _
    exact absurd uncalled.message (tells system past e failed)
  · rw [openForReading, if_neg name]
    rfl

section Uncalled
variable {v : ValueName} {wantsType : Bool} {system : System} {past : List Exchange}

theorem messages_readGrowing {type : UInt32} {buffer : Buffer} {positive : 0 < buffer.length}
    (untold : ∀ e, ((readGrowing .windows v wantsType type buffer positive).run system
      past).value.result = .error e → e.message = none) :
    ofKind .messages ((readGrowing .windows v wantsType type buffer positive).run system
      past).exchanges = [] := by
  induction type, buffer, positive using readGrowing.induct v wantsType generalizing past with
  | case1 type buffer positive ih =>
    rw [readGrowing, value_bind, run_ask] at untold
    rw [readGrowing, exchanges_bind, run_ask, ofKind_append]
    dsimp only at untold ⊢
    generalize past ++ _ = asked at untold ⊢
    generalize system past (.queryValue (v.fetch wantsType buffer)) = reply at untold ⊢
    split at untold
    · next more =>
      rw [if_pos more]
      split at untold
      · next within =>
        rw [trace, value_say_bind] at untold
        rw [dif_pos within, trace, exchanges_say_bind]
        exact ih reply within untold
      · next beyond =>
        rw [dif_neg beyond]
        rfl
    · next fits =>
      rw [if_neg fits]
      split at untold
      · next good =>
        rw [if_pos good]
        rfl
      · exact absurd (untold _ rfl) (CallError.message_ofCall _ _ _ _)

theorem AsksForHint.append {es fs : List Exchange} (h : AsksForHint v system past es)
    (none : ofKind .messages fs = []) : AsksForHint v system past (es ++ fs) := by
  have same : ofKind .messages (es ++ fs) = ofKind .messages es := by
    rw [ofKind_append, none, List.append_nil]
  exact ⟨by rw [same]; exact h.asked, by rw [same]; exact h.unasked⟩

theorem asksForHint_sizeHint (name : Text.isTerminable v.name) :
    AsksForHint v system past ((sizeHint .windows v).run system past).exchanges := by
  rw [sizeHint, exchanges_bind, run_ask]
  dsimp only
  generalize told : system past (.queryValue v.probe) = reply
  have hint : v.hint system past = reply := told
  by_cases good : reply.status = 0
  · rw [if_pos good]
    exact ⟨fun _ bad => absurd (hint ▸ good) bad, fun _ => rfl⟩
  · rw [if_neg good, exchanges_map]
    refine ⟨fun _ _ => ?_, fun hinted => absurd (hint ▸ hinted name) good⟩
    have asks := CallError.ofCall_asksOnce reply.status
      ("Getting buffer size hint for registry value " ++ Text.quoted v.name ++ " failed") system
      (past ++ [⟨.queryValue v.probe, reply⟩])
    rw [hint]
    change AsksMessage _ (ofKind .messages (Observed.exchanges _))
    rw [asks.ofKind_eq]
    exact asks

theorem asksForHint_readInto {buffer : Buffer}
    (untold : ∀ e, ((readInto .windows v wantsType buffer).run system
      past).value.result = .error e → e.message = none) :
    AsksForHint v system past
      ((readInto .windows v wantsType buffer).run system past).exchanges := by
  by_cases name : Text.isTerminable v.name
  · rw [readInto, if_pos name, value_bind] at untold
    have hinted : AsksForHint v system past ((startSize .windows v).run system past).exchanges := by
      rw [exchanges_startSize]
      exact asksForHint_sizeHint name
    rw [readInto, if_pos name, exchanges_bind]
    exact hinted.append (messages_readGrowing untold)
  · rw [readInto, if_neg name]
    exact ⟨fun passed => absurd passed name, fun _ => rfl⟩

theorem asksForHint_readStrings {e : CallError} (untold : e.message = none)
    (failed : ((readStrings .windows v).run system past).value = .error e) :
    AsksForHint v system past ((readStrings .windows v).run system past).exchanges := by
  rw [readStrings, value_bind, readValue, value_map] at failed
  rw [exchanges_readStrings]
  refine asksForHint_readInto fun error own => ?_
  rw [own] at failed
  cases failed
  exact untold

end Uncalled

end CounterCatalog.Registry
