import CounterCatalog.System.Query

set_option autoImplicit false

namespace CounterCatalog.Query

variable {α β : Type}

theorem value_bind (q : Query α) (next : α → Query β) (system : System) (past : List Exchange) :
    ((q >>= next).run system past).value =
      ((next (q.run system past).value).run system
        (past ++ (q.run system past).exchanges)).value := rfl

theorem exchanges_bind (q : Query α) (next : α → Query β) (system : System)
    (past : List Exchange) :
    ((q >>= next).run system past).exchanges =
      (q.run system past).exchanges ++
        ((next (q.run system past).value).run system
          (past ++ (q.run system past).exchanges)).exchanges := rfl

@[simp] theorem value_pure (value : α) (system : System) (past : List Exchange) :
    ((pure value : Query α).run system past).value = value := rfl

@[simp] theorem exchanges_pure (value : α) (system : System) (past : List Exchange) :
    ((pure value : Query α).run system past).exchanges = [] := rfl

theorem value_map (f : α → β) (q : Query α) (system : System) (past : List Exchange) :
    ((q >>= fun a => pure (f a)).run system past).value = f (q.run system past).value := rfl

theorem exchanges_map (f : α → β) (q : Query α) (system : System) (past : List Exchange) :
    ((q >>= fun a => pure (f a)).run system past).exchanges = (q.run system past).exchanges := by
  rw [exchanges_bind, exchanges_pure, List.append_nil]

theorem value_say_bind (level : Level) (text : String) (next : Unit → Query β) (system : System)
    (past : List Exchange) :
    ((say level text >>= next).run system past).value = ((next ()).run system past).value := by
  rw [value_bind, run_say]
  simp only [List.append_nil]

theorem exchanges_say_bind (level : Level) (text : String) (next : Unit → Query β)
    (system : System) (past : List Exchange) :
    ((say level text >>= next).run system past).exchanges =
      ((next ()).run system past).exchanges := by
  rw [exchanges_bind, run_say]
  simp only [List.append_nil, List.nil_append]

def Silent (q : Query α) : Prop := ∀ system past, (q.run system past).log = []

theorem Silent.pure (value : α) : Silent (Pure.pure value : Query α) := fun _ _ => rfl

theorem Silent.ask (call : Call) : Silent (Query.ask call) := fun _ _ => rfl

theorem Silent.bind {q : Query α} {next : α → Query β} (first : Silent q)
    (rest : ∀ value, Silent (next value)) : Silent (q >>= next) := by
  intro system past
  rw [run_bind]
  dsimp only
  rw [first, rest, List.append_nil]

end CounterCatalog.Query
