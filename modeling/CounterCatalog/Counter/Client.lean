import CounterCatalog.CallError.Message
import CounterCatalog.Counter.Binding
import CounterCatalog.Counter.Detail
import CounterCatalog.Text.Quoted
import CounterCatalog.Wire.Reading

set_option autoImplicit false

namespace CounterCatalog

structure Argument where
  role : String
  value : Option String

def Argument.error? (a : Argument) : Option CallError :=
  match a.value with
  | some value =>
    if Text.hasNul value then
      some ((CallError.ofStatus Status.invalidArgument).annotate
        (a.role ++ " contains NUL character: " ++ Text.quoted value))
    else none
  | none => none

structure Client where
  platform : Platform
  binding : Binding
  encoding : Encoding
  deriving DecidableEq, Repr, Inhabited

namespace Client

def native (encoding : Encoding) : Client where
  platform := .windows
  binding := .native
  encoding := encoding

def fail (c : Client) {α : Type} (status : UInt32) (comment : String) :
    Query (Except CallError α) := do
  return .error (← CallError.ofCall c.platform status comment)

def askName (c : Client) (machine : Option String) (index : UInt32) (name : Slot) :
    Query LookupOutcome :=
  c.binding.lookup { encoding := c.encoding, machine, index, name }

def fetchName (c : Client) (machine : Option String) (index size : UInt32) :
    Query (Except CallError String) := do
  let fetch ← c.askName machine index (.allocate c.encoding size)
  Query.trace ("PdhLookupPerfNameByIndex(get data) for index "
    ++ Text.Numeral.decimal index.toNat ++ ": status=" ++ Text.Numeral.statusCode fetch.status)
  if fetch.status = Status.success then
    return .ok (← Wire.readString c.platform c.encoding fetch.name.content).1
  else
    c.fail fetch.status ("PdhLookupPerfNameByIndex for index " ++ Text.Numeral.decimal index.toNat)

def findName (c : Client) (machine : Option String) (index : UInt32) :
    Query (Except CallError String) := do
  let probe ← c.askName machine index .probe
  Query.trace ("PdhLookupPerfNameByIndex(size query) for index "
    ++ Text.Numeral.decimal index.toNat ++ ": status=" ++ Text.Numeral.statusCode probe.status
    ++ ", required=" ++ Text.Numeral.decimal probe.name.size.toNat)
  if Status.announcesSize probe.status then
    if probe.name.size = 0 then do
      Query.debug ("PdhLookupPerfNameByIndex announced empty name for index "
        ++ Text.Numeral.decimal index.toNat)
      return .ok ""
    else c.fetchName machine index probe.name.size
  else
    c.fail probe.status
      ("PdhLookupPerfNameByIndex size query for index " ++ Text.Numeral.decimal index.toNat)

def nameOf (c : Client) (machine : Option String) (index : UInt32) :
    Query (Except CallError String) :=
  match Argument.error? ⟨"machine name", machine⟩ with
  | some error => pure (.error error)
  | none => c.findName machine index

structure Subject where
  source : Option String
  machine : Option String
  object : String
  detail : UInt32
  deriving DecidableEq, Repr

def Subject.error? (s : Subject) : Option CallError :=
  [(⟨"data source", s.source⟩ : Argument), ⟨"machine name", s.machine⟩,
    ⟨"object name", some s.object⟩].findSome? Argument.error?

def askItems (c : Client) (s : Subject) (counters instances : Slot) : Query EnumerationOutcome :=
  c.binding.enumerate {
    encoding := c.encoding, source := s.source, machine := s.machine, object := s.object
    counters, instances, detail := s.detail }

/-- A list without items gets no buffer. -/
def listSlot (e : Encoding) (size : UInt32) : Slot :=
  if size = 0 then .probe else .allocate e size

def fetchItems (c : Client) (s : Subject) (counters instances : UInt32) :
    Query (Except CallError Inventory) := do
  let fetch ← c.askItems s (listSlot c.encoding counters) (listSlot c.encoding instances)
  Query.trace ("PdhEnumObjectItems(get data) for " ++ Text.quoted s.object ++ ": status="
    ++ Text.Numeral.statusCode fetch.status)
  if fetch.status = Status.success then
    let counterTexts ← Wire.readList c.platform c.encoding fetch.counters.content
    let instanceTexts ← Wire.readList c.platform c.encoding fetch.instances.content
    return .ok { counters := counterTexts, instances := instanceTexts }
  else
    c.fail fetch.status ("PdhEnumObjectItems for " ++ Text.quoted s.object)

/-- The probe for the lists and the fetch, which is made even when both are empty. -/
def findItems (c : Client) (s : Subject) : Query (Except CallError Inventory) := do
  let probe ← c.askItems s .probe .probe
  Query.trace ("PdhEnumObjectItems(size query) for " ++ Text.quoted s.object ++ ": status="
    ++ Text.Numeral.statusCode probe.status
    ++ ", counters=" ++ Text.Numeral.decimal probe.counters.size.toNat
    ++ ", instances=" ++ Text.Numeral.decimal probe.instances.size.toNat)
  if Status.announcesSize probe.status then
    if probe.counters.size = 0 ∧ probe.instances.size = 0 then do
      Query.debug ("PdhEnumObjectItems announced no items for " ++ Text.quoted s.object)
      c.fetchItems s probe.counters.size probe.instances.size
    else c.fetchItems s probe.counters.size probe.instances.size
  else
    c.fail probe.status ("PdhEnumObjectItems size query for " ++ Text.quoted s.object)

def enumerate (c : Client) (s : Subject) : Query (Except CallError Inventory) :=
  match s.error? with
  | some error => pure (.error error)
  | none => c.findItems s

end Client

end CounterCatalog
