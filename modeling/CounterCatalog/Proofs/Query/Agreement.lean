import CounterCatalog.Proofs.Query.Calls

set_option autoImplicit false

/-!
# Two runs that agree

A `View` is what is looked at of a run: some of its calls, and of a log line as much as is kept. Two
systems agree for a view if they answer its calls alike behind histories that look alike; about all
other calls nothing is said. Two queries agree if, run against such systems, they look alike and
their values are related, possibly by way of the exchanges that are looked at. This is proved along
the way a query is put together.
-/
namespace CounterCatalog

structure View where
  call : Call → Bool
  line : LogLine → Option LogLine

namespace View

variable (v : View)

def exchanges (es : List Exchange) : List Exchange := es.filter fun e => v.call e.call

def log (lines : List LogLine) : List LogLine := lines.filterMap v.line

@[simp] theorem exchanges_append (es fs : List Exchange) :
    v.exchanges (es ++ fs) = v.exchanges es ++ v.exchanges fs := List.filter_append es fs

theorem exchanges_singleton {e : Exchange} (h : v.call e.call = true) : v.exchanges [e] = [e] := by
  simp [exchanges, h]

@[simp] theorem log_nil : v.log [] = [] := rfl

@[simp] theorem log_append (lines rest : List LogLine) :
    v.log (lines ++ rest) = v.log lines ++ v.log rest := List.filterMap_append

end View

/-- The runs look alike, and their values are related given the exchanges that are looked at. -/
structure Observed.Agree {α β : Type} (v : View) (P : List Exchange → α → β → Prop)
    (shown : Observed α) (other : Observed β) : Prop where
  exchanges : v.exchanges shown.exchanges = v.exchanges other.exchanges
  log : v.log shown.log = v.log other.log
  value : P (v.exchanges shown.exchanges) shown.value other.value

def System.Agree (v : View) (first second : System) : Prop :=
  ∀ past other, v.exchanges past = v.exchanges other →
    ∀ call, v.call call = true → first past call = second other call

namespace Query

variable {α β γ δ : Type} {v : View} {first second : System} {P : List Exchange → α → β → Prop}

def Agree (v : View) (first second : System) (P : List Exchange → α → β → Prop) (q : Query α)
    (r : Query β) : Prop :=
  ∀ past other, v.exchanges past = v.exchanges other →
    (q.run first past).Agree v P (r.run second other)

theorem Agree.pure {value : α} {other : β} (h : P [] value other) :
    Agree v first second P (Pure.pure value) (Pure.pure other) :=
  fun _ _ _ => ⟨rfl, rfl, h⟩

theorem Agree.say {level : Level} {text other : String}
    (h : v.line ⟨level, text⟩ = v.line ⟨level, other⟩) :
    Agree v first second (fun es _ _ => es = []) (Query.say level text) (Query.say level other) :=
  fun _ _ _ => ⟨rfl, congrArg Option.toList h, rfl⟩

theorem Agree.ask (agree : System.Agree v first second) {call : Call} (h : v.call call = true) :
    Agree v first second (fun es reply other => reply = other ∧ es = [⟨call, reply⟩])
      (Query.ask call) (Query.ask call) := by
  intro past other alike
  rw [run_ask, run_ask, agree past other alike call h]
  exact ⟨rfl, rfl, rfl, v.exchanges_singleton h⟩

theorem Agree.bind {Q : List Exchange → γ → δ → Prop} {q : Query α} {r : Query β}
    {next : α → Query γ} {later : β → Query δ} (here : Agree v first second P q r)
    (rest : ∀ es value other, P es value other →
      Agree v first second (fun fs => Q (es ++ fs)) (next value) (later other)) :
    Agree v first second Q (q >>= next) (r >>= later) := by
  intro past other alike
  have shown := here past other alike
  have history : v.exchanges (past ++ (q.run first past).exchanges) =
      v.exchanges (other ++ (r.run second other).exchanges) := by
    rw [View.exchanges_append, View.exchanges_append, alike, shown.exchanges]
  have behind := rest _ _ _ shown.value _ _ history
  rw [run_bind, run_bind]
  refine ⟨?_, ?_, ?_⟩
  · dsimp only
    rw [View.exchanges_append, View.exchanges_append, shown.exchanges, behind.exchanges]
  · dsimp only
    rw [View.log_append, View.log_append, shown.log, behind.log]
  · dsimp only
    rw [View.exchanges_append]
    exact behind.value

theorem Agree.said {Q : List Exchange → γ → δ → Prop} {level : Level} {text other : String}
    {next : Unit → Query γ} {later : Unit → Query δ}
    (h : v.line ⟨level, text⟩ = v.line ⟨level, other⟩)
    (rest : Agree v first second Q (next ()) (later ())) :
    Agree v first second Q (Query.say level text >>= next) (Query.say level other >>= later) := by
  refine (Agree.say h).bind ?_
  rintro _ _ _ rfl
  exact rest

theorem Agree.ite {c : Prop} [Decidable c] {q q' : Query α} {r r' : Query β}
    (yes : c → Agree v first second P q r) (no : ¬ c → Agree v first second P q' r') :
    Agree v first second P (if c then q else q') (if c then r else r') := by
  by_cases h : c
  · rw [if_pos h, if_pos h]
    exact yes h
  · rw [if_neg h, if_neg h]
    exact no h

theorem Agree.mono {Q : List Exchange → α → β → Prop} {q : Query α} {r : Query β}
    (h : Agree v first second P q r) (le : ∀ es value other, P es value other → Q es value other) :
    Agree v first second Q q r := fun past other alike =>
  let shown := h past other alike
  ⟨shown.exchanges, shown.log, le _ _ _ shown.value⟩

theorem Agree.map {Q : List Exchange → γ → δ → Prop} {q : Query α} {r : Query β} {f : α → γ}
    {g : β → δ} (h : Agree v first second P q r)
    (le : ∀ es value other, P es value other → Q es (f value) (g other)) :
    Agree v first second Q (q >>= fun value => Pure.pure (f value))
      (r >>= fun other => Pure.pure (g other)) :=
  h.bind fun es value other related => .pure (by rw [List.append_nil]; exact le es _ _ related)

theorem Agree.allows {allowed : Call → Prop} {q : Query α} {r : Query β}
    (h : Agree v first second P q r) (only : Only allowed q) :
    Agree v first second (fun es value other => P es value other ∧ ∀ e ∈ es, allowed e.call)
      q r := fun past other alike =>
  let shown := h past other alike
  ⟨shown.exchanges, shown.log, shown.value, fun e he =>
    only.allows first past e (List.mem_filter.mp he).1⟩

/-- Nothing is seen of two queries whose calls and log lines are not looked at. -/
theorem Agree.hidden {q : Query α} {r : Query β} (calls : Only (v.call · = false) q)
    (others : Only (v.call · = false) r) (log : ∀ past, v.log (q.run first past).log = [])
    (rest : ∀ past, v.log (r.run second past).log = [])
    (value : ∀ past other, P [] (q.run first past).value (r.run second other).value) :
    Agree v first second P q r := by
  have none : ∀ {α : Type} {q : Query α}, Only (v.call · = false) q → ∀ system past,
      v.exchanges (q.run system past).exchanges = [] := by
    intro α q only system past
    apply List.filter_eq_nil_iff.mpr
    intro e he
    rw [only.allows system past e he]
    decide
  intro past other _
  refine ⟨?_, ?_, ?_⟩
  · rw [none calls, none others]
  · rw [log, rest]
  · rw [none calls]
    exact value past other

theorem Only.agree (agree : System.Agree v first second) {q : Query α}
    (h : Only (v.call · = true) q) :
    Agree v first second (fun _ value other => value = other) q q := by
  induction h with
  | pure value => exact .pure rfl
  | say level text => exact (Agree.say rfl).mono fun _ _ _ _ => rfl
  | ask h => exact (Agree.ask agree h).mono fun _ _ _ same => same.1
  | bind _ _ here rest =>
    refine here.bind fun es value other same => ?_
    subst same
    exact rest value

end Query

end CounterCatalog
