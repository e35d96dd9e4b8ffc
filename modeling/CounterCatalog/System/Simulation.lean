import CounterCatalog.Counter.Detail
import CounterCatalog.System.Query
import CounterCatalog.Text.CodePage
import CounterCatalog.Text.Unicode

set_option autoImplicit false

namespace CounterCatalog

structure Simulation where
  /-- Names by index; of two names with one index the later one holds. -/
  names : List (UInt32 × String) := []
  counters : List String := []
  instances : List String := []
  probeStatus : Option UInt32 := none
  fetchStatus : Option UInt32 := none
  table : Except UInt32 (List String) := .ok []

namespace Simulation

def textBytes (e : Encoding) (s : String) : List UInt8 :=
  match e with
  | .narrow => Text.CodePage.encode s
  | .wide => Encoding.wideBytes (Text.Utf16.encode s)

def stringBytes (e : Encoding) (s : String) : List UInt8 := textBytes e s ++ e.terminator

def listBytes (e : Encoding) (texts : List String) : List UInt8 :=
  if texts = [] then [] else texts.flatMap (stringBytes e) ++ e.terminator

def nameOf? (s : Simulation) (index : UInt32) : Option String :=
  (s.names.reverse.find? fun entry => entry.1 == index).map Prod.snd

def nameBytes (e : Encoding) (name : String) : List UInt8 :=
  if name = "" then [] else stringBytes e name

def fits (slot : Slot) (data : List UInt8) : Bool :=
  match slot.buffer with
  | some buffer => data.length ≤ buffer.length
  | none => data.isEmpty

def fill (e : Encoding) (slot : Slot) (data : List UInt8) : Written where
  size := some (.ofNat (data.length / e.width))
  data := if fits slot data then data else []

/-- The status of a call: the one that was asked for, or else whether all data fits. -/
def statusOf (s : Simulation) (isProbe fit : Bool) : UInt32 :=
  (if isProbe then s.probeStatus else s.fetchStatus).getD
    (if fit then Status.success else Status.moreData)

def lookup (s : Simulation) (r : LookupRequest String) : LookupReply :=
  let isProbe := r.name.buffer.isNone
  match s.nameOf? r.index with
  | none => { status := (if isProbe then s.probeStatus else none).getD Status.noObject }
  | some name =>
    let data := nameBytes r.encoding name
    { status := s.statusOf isProbe (fits r.name data), name := fill r.encoding r.name data }

def enumerate (s : Simulation) (r : EnumerationRequest String) : EnumerationReply :=
  let isProbe := r.counters.buffer.isNone && r.instances.buffer.isNone
  let counters := listBytes r.encoding s.counters
  let instances := listBytes r.encoding s.instances
  { status := s.statusOf isProbe (fits r.counters counters && fits r.instances instances)
    counters := fill r.encoding r.counters counters
    instances := fill r.encoding r.instances instances }

def system (s : Simulation) : System := fun _ call =>
  match call with
  | .lookup request => s.lookup request
  | .enumerate request => s.enumerate request
  | .nativeLookup _ => { status := Status.noObject }
  | .nativeEnumerate _ _ => { status := Status.noObject }
  | .readTable => s.table
  | .findModule _ => false
  | .formatMessage _ => { units := [], buffer := 0 }
  | .lastError => 0
  | .freeMessage => ()
  | .measureAnsi _ => 0
  | .convertAnsi _ _ => []
  | .openKey _ _ _ => { status := 2, handle := 0 }
  | .closeKey _ => 0
  | .queryValue _ => { status := 2 }

structure Tally where
  lookups : Nat := 0
  enumerations : Nat := 0
  lastMachine : Option String := none
  lastDetail : Option UInt32 := none
  lists : List (Option Nat × Option Nat) := []
  tableReads : Nat := 0
  deriving DecidableEq, Repr, Inhabited

def bufferLength (s : Slot) : Option Nat := s.buffer.map Buffer.length

def Tally.add (t : Tally) (e : Exchange) : Tally :=
  match e.call with
  | .lookup request => { t with lookups := t.lookups + 1, lastMachine := request.machine }
  | .enumerate request =>
    { t with
      enumerations := t.enumerations + 1
      lastMachine := request.machine
      lastDetail := some request.detail
      lists := t.lists ++ [(bufferLength request.counters, bufferLength request.instances)] }
  | .readTable => { t with tableReads := t.tableReads + 1 }
  | _ => t

def tallyFrom {α : Type} (t : Tally) : List (Observed α) → List Tally
  | [] => []
  | shown :: rest =>
    let next := shown.exchanges.foldl Tally.add t
    next :: tallyFrom next rest

def tallies {α : Type} (steps : List (Observed α)) : List Tally := tallyFrom {} steps

end Simulation

end CounterCatalog
