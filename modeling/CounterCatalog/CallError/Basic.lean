import CounterCatalog.Text.Characters

set_option autoImplicit false

namespace CounterCatalog

structure Account where
  status : UInt32
  comment : Option String := none
  message : Option String := none
  deriving DecidableEq, Repr, Inhabited

def Account.messageText (a : Account) : String :=
  match a.message with
  | some message => Text.trimEnd message
  | none => "UNKNOWN ERROR CODE"

def Account.commentText (a : Account) : String :=
  match a.comment with
  | some comment => comment ++ "; "
  | none => ""

def Account.display (a : Account) : String :=
  a.commentText ++ "Pdh call failed with error code " ++ Text.Numeral.statusCode a.status ++ ": "
    ++ a.messageText

inductive CallError where
  | root (own : Account)
  | dueTo (own : Account) (cause : CallError)
  deriving DecidableEq, Repr, Inhabited

namespace CallError

def ofStatus (status : UInt32) : CallError := .root { status }

def own : CallError → Account
  | .root own => own
  | .dueTo own _ => own

def cause? : CallError → Option CallError
  | .root _ => none
  | .dueTo _ cause => some cause

def status (e : CallError) : UInt32 := e.own.status

def comment (e : CallError) : Option String := e.own.comment

def message (e : CallError) : Option String := e.own.message

def mapOwn (f : Account → Account) : CallError → CallError
  | .root own => .root (f own)
  | .dueTo own cause => .dueTo (f own) cause

def annotate (e : CallError) (comment : String) : CallError :=
  e.mapOwn fun own => { own with comment := some comment }

def describe (e : CallError) (message : String) : CallError :=
  e.mapOwn fun own => { own with message := some message }

/-- The cause takes the place of any earlier one. -/
def blame (e cause : CallError) : CallError := .dueTo e.own cause

def display : CallError → String
  | .root own => own.display
  | .dueTo own cause => own.display ++ "; Caused by: " ++ cause.display

end CallError

end CounterCatalog
