import CounterCatalog.System.Call

set_option autoImplicit false

/-!
A `Query` is a computation that makes calls and writes log lines. It is a function of the system and
of the exchanges before it, so that what a sequence of queries does can be followed call by call.
-/
namespace CounterCatalog

inductive Level where
  | trace
  | debug
  | warn
  deriving DecidableEq, Repr

structure LogLine where
  level : Level
  text : String
  deriving DecidableEq, Repr

structure Observed (α : Type) where
  value : α
  exchanges : List Exchange := []
  log : List LogLine := []

def Query (α : Type) : Type := System → List Exchange → Observed α

namespace Query

variable {α β : Type}

def run (q : Query α) (system : System) (past : List Exchange) : Observed α := q system past

def done (value : α) : Query α := fun _ _ => { value }

def andThen (q : Query α) (next : α → Query β) : Query β := fun system past =>
  let first := q.run system past
  let second := (next first.value).run system (past ++ first.exchanges)
  { value := second.value
    exchanges := first.exchanges ++ second.exchanges
    log := first.log ++ second.log }

instance : Monad Query where
  pure := done
  bind := andThen

theorem ext_run {p q : Query α} (h : ∀ system past, p.run system past = q.run system past) :
    p = q :=
  funext fun system => funext fun past => h system past

@[simp] theorem run_pure (value : α) (system : System) (past : List Exchange) :
    (pure value : Query α).run system past = { value } := rfl

theorem run_bind (q : Query α) (next : α → Query β) (system : System) (past : List Exchange) :
    (q >>= next).run system past =
      { value := ((next (q.run system past).value).run system
          (past ++ (q.run system past).exchanges)).value
        exchanges := (q.run system past).exchanges ++ ((next (q.run system past).value).run system
          (past ++ (q.run system past).exchanges)).exchanges
        log := (q.run system past).log ++ ((next (q.run system past).value).run system
          (past ++ (q.run system past).exchanges)).log } := rfl

instance : LawfulMonad Query := LawfulMonad.mk' Query
  (fun q => ext_run fun system past => by
    change (q >>= fun value => pure value).run system past = _
    simp only [run_bind, run_pure, List.append_nil])
  (fun value next => ext_run fun system past => by
    simp only [run_bind, run_pure, List.append_nil, List.nil_append])
  (fun q next last => ext_run fun system past => by
    simp only [run_bind, List.append_assoc])

def ask (call : Call) : Query call.Reply := fun system past =>
  { value := system past call, exchanges := [⟨call, system past call⟩] }

def say (level : Level) (text : String) : Query Unit := fun _ _ =>
  { value := (), log := [⟨level, text⟩] }

def trace (text : String) : Query Unit := say .trace text

def debug (text : String) : Query Unit := say .debug text

def warn (text : String) : Query Unit := say .warn text

/-- The type of the reply is known once the call is, so the lemma is found by the call alone. -/
@[simp] theorem run_ask (call : Call) (system : System) (past : List Exchange) :
    @run (no_index call.Reply) (ask call) system past =
      { value := system past call, exchanges := [⟨call, system past call⟩] } := rfl

@[simp] theorem run_say (level : Level) (text : String) (system : System)
    (past : List Exchange) :
    (say level text).run system past = { value := (), log := [⟨level, text⟩] } := rfl

end Query

end CounterCatalog
