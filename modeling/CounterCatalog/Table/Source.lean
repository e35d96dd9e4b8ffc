import CounterCatalog.Counter.Client
import CounterCatalog.Registry.Value

set_option autoImplicit false

namespace CounterCatalog.Table

/-- The entries of a table; a string left over at its end belongs to none. -/
def pairs : List String → List (String × String)
  | index :: name :: rest => (index, name) :: pairs rest
  | _ => []

def indexText? (table : List String) (name : String) : Option String :=
  ((pairs table).find? fun entry => entry.2 == name).map Prod.fst

/-- The first entry of a name decides; zero stands for an unknown name. -/
def indexOf (table : List String) (name : String) : UInt32 :=
  ((indexText? table name).bind Text.Numeral.word?).getD 0

def complaint? (table : List String) (name : String) : Option String :=
  match indexText? table name with
  | none => some ("English counter name " ++ Text.quoted name ++ " not found")
  | some text =>
    if (Text.Numeral.word? text).isSome then none
    else
      some ("Malformed index " ++ Text.quoted text ++ " for English counter name "
        ++ Text.quoted name)

def findIndex (table : List String) (name : String) : Query UInt32 := do
  match complaint? table name with
  | some complaint => Query.debug complaint
  | none => pure ()
  return indexOf table name

def englishKey : String := "SOFTWARE\\Microsoft\\Windows NT\\CurrentVersion\\Perflib\\009"

def englishValue : String := "Counter"

inductive Source where
  | listed (table : List String)
  | failing (status : UInt32)
  | provided
  | registry
  deriving DecidableEq, Repr, Inhabited

/-- The key is closed behind the read, and how that ends does not matter to the result. -/
def readEnglish (p : Platform) : Query (Except CallError (List String)) := do
  match ← Registry.openForReading p Registry.localMachine englishKey with
  | .error error => return .error error
  | .ok handle =>
    let result ← Registry.readStrings p { key := handle, name := englishValue }
    Registry.releaseKey p handle
    return result

def ofProvider : Except UInt32 (List String) → Except CallError (List String)
  | .ok table => .ok table
  | .error status => .error ((CallError.ofStatus status).annotate "RegQueryValueExW")

def Source.read (p : Platform) : Source → Query (Except CallError (List String))
  | .listed table => pure (.ok table)
  | .failing status => pure (.error ((CallError.ofStatus status).annotate "table"))
  | .provided => do return ofProvider (← Query.ask .readTable)
  | .registry => readEnglish p

def Source.lookupIndex (s : Source) (p : Platform) (name : String) : Query UInt32 := do
  match ← s.read p with
  | .ok table => findIndex table name
  | .error error => do
    Query.warn ("Unable to read English counter table: " ++ error.display)
    return 0

end CounterCatalog.Table

namespace CounterCatalog

def Client.localizedName (c : Client) (source : Table.Source) (machine : Option String)
    (name : String) : Query (Except CallError (Option String)) := do
  let index ← source.lookupIndex c.platform name
  if index = 0 then return .ok none
  else return (← c.nameOf machine index).map some

end CounterCatalog
