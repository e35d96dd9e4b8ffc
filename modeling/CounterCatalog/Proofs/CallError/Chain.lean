import CounterCatalog.Proofs.CallError.Causes
import CounterCatalog.Proofs.Text.Numeral
import Mathlib.Data.List.DropRight
import Mathlib.Data.List.Forall2

set_option autoImplicit false

namespace CounterCatalog.Text

def IsTrimmed (text trimmed : String) : Prop :=
  ∃ blanks : List Char, text = trimmed ++ String.ofList blanks ∧ (∀ c ∈ blanks, isBlank c) ∧
    ∀ c ∈ trimmed.toList.getLast?, isBlank c = false

theorem isTrimmed_trimEnd (text : String) : IsTrimmed text (trimEnd text) := by
  have whole : dropBlankEnd text.toList ++ text.toList.rtakeWhile isBlank = text.toList :=
    List.rdropWhile_append_rtakeWhile
  refine ⟨text.toList.rtakeWhile isBlank, ?_, fun c => List.mem_rtakeWhile_imp, fun c last => ?_⟩
  · rw [trimEnd, ← String.ofList_append, whole, String.ofList_toList]
  · rw [trimEnd, String.toList_ofList] at last
    obtain ⟨some, rfl⟩ := List.mem_getLast?_eq_getLast last
    exact Bool.eq_false_iff.mpr (List.rdropWhile_last_not isBlank text.toList some)

end CounterCatalog.Text

namespace CounterCatalog

open Query

/-- What is said of a call by itself: the comment, if there is one, the status, and the message
without the white space at its end, if there is one. -/
def Account.Says (a : Account) (text : String) : Prop :=
  ∃ head code message : String,
    text = head ++ "Pdh call failed with error code 0x" ++ code ++ ": " ++ message ∧
    (a.comment = none → head = "") ∧
    (∀ comment, a.comment = some comment → head = comment ++ "; ") ∧
    Text.Numeral.IsWordCode code a.status.toNat ∧
    (a.message = none → message = "UNKNOWN ERROR CODE") ∧
    ∀ told, a.message = some told → Text.IsTrimmed told message

theorem Account.says_display (a : Account) : a.Says a.display := by
  obtain ⟨code, written, digits⟩ := Text.Numeral.statusCode_eq a.status
  refine ⟨a.commentText, code, a.messageText, ?_, fun none => ?_, fun comment some => ?_, digits,
    fun none => ?_, fun told some => ?_⟩
  · rw [display, written]
    simp only [String.append_assoc]
    rfl
  · rw [commentText, none]
  · rw [commentText, some]
  · rw [messageText, none]
  · rw [messageText, some]
    exact Text.isTrimmed_trimEnd told

namespace CallError

def chain (e : CallError) : List CallError := e :: e.causes

/-- The list begins with the error, goes on with the cause of each member and ends with one that
has none. -/
structure Follows (e : CallError) (es : List CallError) : Prop where
  first : es[0]? = some e
  next : ∀ i error, es[i]? = some error → es[i + 1]? = error.cause?

theorem Follows.cons {e cause : CallError} {es : List CallError} (h : cause.Follows es)
    (own : e.cause? = some cause) : e.Follows (e :: es) where
  first := rfl
  next i error member := by
    cases i with
    | zero =>
      cases member
      exact h.first.trans own.symm
    | succ i => exact h.next i error member

theorem follows_chain (e : CallError) : e.Follows e.chain := by
  induction e with
  | root own =>
    refine ⟨rfl, fun i error member => ?_⟩
    cases i with
    | zero =>
      cases member
      rfl
    | succ i => cases member
  | dueTo own cause ih => exact ih.cons rfl

theorem display_eq_intercalate (e : CallError) :
    e.display =
      String.intercalate "; Caused by: " (e.chain.map fun error => error.own.display) := by
  induction e with
  | root own => exact String.intercalate_singleton.symm
  | dueTo own cause ih =>
    rw [display, ih]
    exact String.intercalate_cons_cons.symm

/-- The error that a step makes of those that it refers to. -/
def DraftStep.Gives (drafts : List CallError) (result : DraftResult) : DraftStep → Prop
  | .create status => result = .made (.root { status })
  | .createExplained status => ∃ made, result = .made made ∧ made.status = status
  | .annotate error comment => ∀ draft ∈ drafts[error]?, ∃ made, result = .made made ∧
      made.own = { draft.own with comment := some comment } ∧ made.cause? = draft.cause?
  | .explain error => ∀ draft ∈ drafts[error]?, ∃ made, result = .made made ∧
      made.status = draft.status
  | .blame error cause => ∀ draft ∈ drafts[error]?, ∀ other ∈ drafts[cause]?,
      ∃ made, result = .made made ∧ made.own = draft.own ∧ made.chain = made :: other.chain
  | .compare _ _ => ∀ made, result ≠ .made made

theorem own_annotate (e : CallError) (comment : String) :
    (e.annotate comment).own = { e.own with comment := some comment } := by
  cases e <;> rfl

theorem cause?_annotate (e : CallError) (comment : String) :
    (e.annotate comment).cause? = e.cause? := by
  cases e <;> rfl

theorem DraftStep.gives_run (p : Platform) (drafts : List CallError) (step : DraftStep)
    (system : System) (past : List Exchange) :
    step.Gives drafts ((step.run p drafts).run system past).value := by
  cases step with
  | create status => rfl
  | createExplained status => exact ⟨_, rfl, status_explain p (.ofStatus status) system past⟩
  | annotate error comment =>
    intro draft found
    refine ⟨draft.annotate comment, ?_, draft.own_annotate comment, draft.cause?_annotate comment⟩
    rw [DraftStep.run, value_pure, Option.mem_def.mp found]
    rfl
  | explain error =>
    intro draft found
    refine ⟨_, ?_, status_explain p draft system past⟩
    rw [DraftStep.run, Option.mem_def.mp found]
    rfl
  | blame error cause =>
    intro draft found other second
    refine ⟨draft.blame other, ?_, rfl, rfl⟩
    rw [DraftStep.run, Option.mem_def.mp found, Option.mem_def.mp second]
    rfl
  | compare error other =>
    intro made
    rw [DraftStep.run]
    split <;> exact nofun

/-- The text of an error is what each member of its chain of causes says of itself, in order,
however the error was built. -/
theorem display_renders_chain :
    (∀ e : CallError, e.Follows e.chain ∧ ∃ texts : List String,
      List.Forall₂ (fun error text => error.own.Says text) e.chain texts ∧
      e.display = String.intercalate "; Caused by: " texts) ∧
    ∀ (p : Platform) (system : System) (steps : List DraftStep),
      Along (fun drafts step shown => step.Gives drafts shown.value) [] steps
        (draft p system steps).1 := by
  refine ⟨fun e => ⟨e.follows_chain, e.chain.map fun error => error.own.display, ?_,
    e.display_eq_intercalate⟩, fun p system steps => ?_⟩
  · rw [List.forall₂_map_right_iff]
    exact List.forall₂_same.mpr fun error _ => error.own.says_display
  · exact along_draftFrom (fun past drafts step => step.gives_run p drafts system past) [] [] steps

example :
    ((ofStatus 0x800007D0).annotate "PdhEnumObjectItems" |>.blame
      ((ofStatus 2).annotate "RegOpenKeyExW")).display =
    "PdhEnumObjectItems; Pdh call failed with error code 0x800007D0: UNKNOWN ERROR CODE"
      ++ "; Caused by: "
      ++ "RegOpenKeyExW; Pdh call failed with error code 0x00000002: UNKNOWN ERROR CODE" := by
  decide +kernel

end CallError

end CounterCatalog
