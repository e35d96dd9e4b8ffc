import CounterCatalog.Counter.Detail
import CounterCatalog.Table.Source

set_option autoImplicit false

namespace CounterCatalog.Report

def defaultName : String := "Processor"

def encodingName : Encoding → String
  | .narrow => "Narrow"
  | .wide => "Wide"

def itemLines (items : Inventory) : List String :=
  ["Counters:"] ++ items.counters.map ("  " ++ ·) ++ ["Instances:"]
    ++ items.instances.map ("  " ++ ·)

def describeItems (c : Client) (machine : Option String) (name : String) : Query (List String) := do
  let subject : Client.Subject :=
    { source := none, machine, object := name, detail := Detail.wizard.code }
  match ← c.enumerate subject with
  | .ok items => return itemLines items
  | .error error =>
    return ["Error while enumerating " ++ Text.quoted name ++ ": " ++ error.display]

def describeIndex (c : Client) (machine : Option String) (english : String) (index : UInt32) :
    Query (List String) := do
  match ← c.nameOf machine index with
  | .error error =>
    return ["Error while looking up name of index " ++ Text.Numeral.decimal index.toNat ++ ": "
      ++ error.display]
  | .ok name =>
    let items ← describeItems c machine name
    return ("[" ++ Text.Numeral.decimal index.toNat ++ "]: " ++ english ++ " => " ++ name) :: items

def describe (c : Client) (machine : Option String) (english : String) : Query (List String) := do
  let index ← Table.Source.registry.lookupIndex c.platform english
  if index = 0 then
    return ["No counter named " ++ Text.quoted english ++ " in the English table"]
  else describeIndex c machine english index

/-- The lines of a report. The first argument is the English name and the second the machine. -/
def lines (p : Platform) (encoding : Encoding) (arguments : List String) : Query (List String) :=
  match p with
  | .plain => pure ["PDH is only available on Windows."]
  | .windows => do
    let body ← describe (.native encoding) arguments[1]? (arguments[0]?.getD defaultName)
    return ("Encoding: " ++ encodingName encoding) :: body

def text (lines : List String) : String := String.join (lines.map (· ++ "\n"))

end CounterCatalog.Report
