import CounterCatalog.CallError.Message

set_option autoImplicit false

namespace CounterCatalog.CallError

inductive DraftStep where
  | create (status : UInt32)
  | createExplained (status : UInt32)
  | annotate (error : Nat) (comment : String)
  | explain (error : Nat)
  | blame (error cause : Nat)
  | compare (error other : Nat)
  deriving DecidableEq, Repr

inductive DraftResult where
  | made (error : CallError)
  | compared (equal : Bool)
  | missing
  deriving DecidableEq, Repr

def DraftResult.ofOption : Option CallError → DraftResult
  | some error => .made error
  | none => .missing

def DraftStep.run (p : Platform) (drafts : List CallError) : DraftStep → Query DraftResult
  | .create status => pure (.made (.ofStatus status))
  | .createExplained status => return .made (← CallError.explain p (.ofStatus status))
  | .annotate error comment => pure (.ofOption (drafts[error]?.map (·.annotate comment)))
  | .explain error =>
    match drafts[error]? with
    | some draft => return .made (← CallError.explain p draft)
    | none => pure .missing
  | .blame error cause =>
    match drafts[error]?, drafts[cause]? with
    | some draft, some other => pure (.made (draft.blame other))
    | _, _ => pure .missing
  | .compare error other =>
    match drafts[error]?, drafts[other]? with
    | some draft, some second => pure (.compared (draft = second))
    | _, _ => pure .missing

def DraftResult.extend (drafts : List CallError) : DraftResult → List CallError
  | .made error => drafts ++ [error]
  | .compared _ | .missing => drafts

/-- Runs the steps one behind the other: what each showed, and all errors at the end. -/
def draftFrom (p : Platform) (system : System) (past : List Exchange) (drafts : List CallError) :
    List DraftStep → List (Observed DraftResult) × List CallError
  | [] => ([], drafts)
  | step :: steps =>
    let shown := (step.run p drafts).run system past
    let rest :=
      draftFrom p system (past ++ shown.exchanges) (shown.value.extend drafts) steps
    (shown :: rest.1, rest.2)

def draft (p : Platform) (system : System) (steps : List DraftStep) :
    List (Observed DraftResult) × List CallError :=
  draftFrom p system [] [] steps

end CounterCatalog.CallError
