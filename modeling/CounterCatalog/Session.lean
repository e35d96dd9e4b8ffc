import CounterCatalog.Table.Source

set_option autoImplicit false

namespace CounterCatalog

structure Session where
  client : Client
  table : Table.Source
  deriving DecidableEq, Repr, Inhabited

namespace Session

inductive Step where
  | nameOf (machine : Option String) (index : UInt32)
  | enumerate (subject : Client.Subject)
  | lookupIndex (name : String)
  | localizedName (machine : Option String) (name : String)
  | readTable
  | useTable (table : Table.Source)
  | copyClient
  | tryKey (parent : Int) (key : String)
  | closeKey (key : Int)
  | readValue (value : Registry.ValueName) (wantsType : Bool)
  | readInto (value : Registry.ValueName) (buffer : Buffer)
  | readStrings (value : Registry.ValueName)
  | nativeLookup (request : LookupRequest String)
  | nativeEnumerate (request : EnumerationRequest String)
  deriving DecidableEq, Repr

inductive Outcome where
  | name (result : Except CallError String)
  | items (result : Except CallError Inventory)
  | index (index : UInt32)
  | localizedName (result : Except CallError (Option String))
  | table (result : Except CallError (List String))
  | tableChanged
  | copied (encoding : Encoding)
  | opened (result : Except CallError Int)
  | closed (result : Except CallError Unit)
  | value (result : Except CallError (Buffer × UInt32))
  | filled (result : Except CallError Unit) (buffer : Buffer)
  | strings (result : Except CallError (List String))
  | nativeName (outcome : LookupOutcome)
  | nativeItems (outcome : EnumerationOutcome)

def Step.run (s : Session) : Step → Query Outcome
  | .nameOf machine index => return .name (← s.client.nameOf machine index)
  | .enumerate subject => return .items (← s.client.enumerate subject)
  | .lookupIndex name => return .index (← s.table.lookupIndex s.client.platform name)
  | .localizedName machine name =>
    return .localizedName (← s.client.localizedName s.table machine name)
  | .readTable => return .table (← s.table.read s.client.platform)
  | .useTable _ => pure .tableChanged
  | .copyClient => pure (.copied s.client.encoding)
  | .tryKey parent key => return .opened (← Registry.tryKey s.client.platform parent key)
  | .closeKey key => return .closed (← Registry.close s.client.platform key)
  | .readValue value wantsType =>
    return .value (← Registry.readValue s.client.platform value wantsType)
  | .readInto value buffer => do
    let reading ← Registry.readInto s.client.platform value false buffer
    return .filled reading.result reading.buffer
  | .readStrings value => return .strings (← Registry.readStrings s.client.platform value)
  | .nativeLookup request => return .nativeName (← Binding.native.lookup request)
  | .nativeEnumerate request => return .nativeItems (← Binding.native.enumerate request)

def after (s : Session) : Step → Session
  | .useTable table => { s with table }
  | _ => s

def runFrom (system : System) (past : List Exchange) (s : Session) :
    List Step → List (Observed Outcome)
  | [] => []
  | step :: steps =>
    let shown := (step.run s).run system past
    shown :: runFrom system (past ++ shown.exchanges) (s.after step) steps

def run (s : Session) (system : System) (steps : List Step) : List (Observed Outcome) :=
  runFrom system [] s steps

end Session

end CounterCatalog
