import CounterCatalog.Proofs.Registry.KeyUse
import CounterCatalog.Proofs.Table.English

set_option autoImplicit false

namespace CounterCatalog

open Query Registry

def System.closing (system : System) (status : UInt32) : System := fun past call =>
  match call with
  | .closeKey _ => status
  | call => system past call

namespace Registry

section Reading
variable (p : Platform) (v : ValueName) (system : System) (past : List Exchange)

theorem queries_readStrings :
    ∀ e ∈ ofKind .registry ((readStrings p v).run system past).exchanges,
      e.call.Queries v.key := by
  intro e he
  obtain ⟨made, kind⟩ := List.mem_filter.mp he
  rcases (readStrings_only v).allows system past e made with ⟨r, asked, own, -⟩ | messages
  · exact ⟨r, asked, own⟩
  · rw [messages] at kind
    cases kind

theorem ofKind_readStrings_ne_nil (name : Text.isTerminable v.name) :
    ofKind .registry ((readStrings p v).run system past).exchanges ≠ [] := by
  rw [readStrings, exchanges_bind, readValue, exchanges_map, readInto, if_pos name,
    exchanges_bind, startSize, exchanges_bind, sizeHint, exchanges_bind, run_ask]
  simp only [List.append_assoc, ofKind_append]
  exact List.cons_ne_nil _ _

theorem run_readStrings_closing (status : UInt32) :
    (readStrings p v).run (system.closing status) past = (readStrings p v).run system past := by
  apply (readStrings_only v).run_congr
  rintro past call (⟨r, rfl, -⟩ | messages)
  · rfl
  · cases call <;> first | rfl | cases messages

theorem log_releaseKey_closing (handle : Int) :
    ((releaseKey p handle).run (system.closing 0) past).log = [] :=
  log_releaseKey_of_closed p handle _ past rfl

end Reading

end Registry

namespace Table

section Keys
variable {p : Platform} {system : System} {past : List Exchange}

theorem calls_readEnglish_of_opened (status : (opened system past).status = 0) :
    ∃ (queries : List Exchange) (later : List Exchange), queries ≠ [] ∧
      (∀ e ∈ queries, e.call.Queries (opened system past).handle) ∧
      ofKind .registry ((readEnglish p).run system past).exchanges =
        ⟨.openKey localMachine englishKey readAccess, opened system past⟩ ::
          (queries ++ [⟨.closeKey (opened system past).handle,
            system later (.closeKey (opened system past).handle)⟩]) ∧
      ((readEnglish p).run system past).value =
        ((readEnglish p).run (system.closing 0) past).value ∧
      ((readEnglish p).run system past).log =
        ((readEnglish p).run (system.closing 0) past).log ++
          ((releaseKey p (opened system past).handle).run system later).log := by
  have name : Text.isTerminable (openedValue system past).name :=
    Text.isTerminable_of_not_hasNul englishValue_plain
  have opening : pastOpening (system.closing 0) past = pastOpening system past := rfl
  have value : openedValue (system.closing 0) past = openedValue system past := rfl
  have same : (opened (system.closing 0) past).status = 0 := status
  have quiet := run_readEnglish_of_opened (p := p) same
  rw [opening, value, run_readStrings_closing] at quiet
  dsimp only at quiet
  rw [log_releaseKey_closing, List.append_nil] at quiet
  rw [quiet, run_readEnglish_of_opened status]
  dsimp only
  refine ⟨_, _, ofKind_readStrings_ne_nil p _ system (pastOpening system past) name,
    queries_readStrings p _ system (pastOpening system past), ?_, rfl, rfl⟩
  rw [← List.singleton_append, ofKind_append, ofKind_append, ofKind_releaseKey]
  rfl

theorem keyUse_readEnglish :
    KeyUse (ofKind .registry ((readEnglish p).run system past).exchanges) := by
  by_cases status : (opened system past).status = 0
  · obtain ⟨queries, later, -, own, calls, -⟩ := calls_readEnglish_of_opened (p := p) status
    rw [calls]
    exact .closed englishKey readAccess _ status queries own _
  · rw [(readEnglish_of_refused status).1]
    exact .refused englishKey readAccess _ status

end Keys

end Table

end CounterCatalog
