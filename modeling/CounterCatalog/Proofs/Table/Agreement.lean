import CounterCatalog.Proofs.Counter.Agreement
import CounterCatalog.Proofs.Registry.Agreement
import CounterCatalog.Table.Source

set_option autoImplicit false

namespace CounterCatalog

open Query

structure View.OfTable (v : View) (source : Table.Source) : Prop where
  table : ∀ call : Call, call.kind = .table → v.call call = true
  registry : source = .registry → ∀ call : Call, call.kind = .registry → v.call call = true
  hides : v.HidesMessages
  warnings : ∀ text other, v.line ⟨.warn, text⟩ = v.line ⟨.warn, other⟩

section Agreement
variable {v : View} {first second : System} {source : Table.Source} (view : v.OfTable source)
  (agree : System.Agree v first second) (p q : Platform)
include agree

namespace Table

theorem agree_readEnglish (registry : v.OfRegistry) :
    Agree v first second (ResultsAlike Eq) (readEnglish p) (readEnglish q) := by
  refine (Registry.agree_openForReading registry agree p q _ _).bind ?_
  intro es result other alike
  cases alike with
  | @ok handle _ same =>
    subst same
    refine (Registry.agree_readStrings registry agree p q _).bind fun fs _ _ strings => ?_
    refine (Registry.agree_releaseKey registry agree p q handle).map fun gs _ _ _ => ?_
    refine strings.mono (fun _ _ => id) fun x member => ?_
    exact List.mem_append_right es (List.mem_append_left gs member)
  | error alike => exact .pure (.error (alike.mono fun _ => List.mem_append_left _))

include view

theorem Source.agree_read :
    Agree v first second (ResultsAlike Eq) (source.read p) (source.read q) := by
  cases source with
  | listed table => exact .pure (.ok rfl)
  | failing status => exact .pure (.error (.same rfl))
  | provided =>
    refine (Agree.ask agree (view.table _ rfl)).map ?_
    rintro es reply _ ⟨rfl, -⟩
    cases reply with
    | ok table => exact .ok rfl
    | error status => exact .error (.same rfl)
  | registry => exact agree_readEnglish agree p q ⟨view.registry rfl, view.hides, view.warnings⟩

theorem Source.agree_lookupIndex (name : String) :
    Agree v first second (fun _ index other => index = other) (source.lookupIndex p name)
      (source.lookupIndex q name) := by
  refine (Source.agree_read view agree p q).bind ?_
  intro es result other alike
  cases alike with
  | @ok table _ same =>
    subst same
    exact (findIndex_only _ table name).agree agree
  | error => exact .said (view.warnings _ _) (.pure rfl)

end Table

include view in
theorem Client.agree_localizedName (counters : v.OfCounters) (c : Client) {T : TextRelation}
    (read : T.Read v first second c.platform q c.encoding) (machine : Option String)
    (name : String) :
    Agree v first second (fun es => ResultsAlike (Option.Rel (NameAlike T es)) es)
      (c.localizedName source machine name) ((c.on q).localizedName source machine name) := by
  refine (Table.Source.agree_lookupIndex view agree c.platform q name).bind ?_
  rintro es index _ rfl
  refine .ite (fun _ => .pure (.ok .none)) fun _ => ?_
  refine (Client.agree_nameOf counters agree c q read machine index).map fun fs _ _ alike => ?_
  cases alike with
  | ok alike => exact .ok (.some (alike.append es))
  | error alike => exact .error (alike.mono fun _ => List.mem_append_right es)

end Agreement

end CounterCatalog
