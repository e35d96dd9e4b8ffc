import CounterCatalog.CallError.Message
import CounterCatalog.Registry.Value

set_option autoImplicit false

namespace CounterCatalog

structure Script.CounterReply where
  status : UInt32 := 0
  name : Written := {}
  counters : Written := {}
  instances : Written := {}
  deriving DecidableEq, Repr, Inhabited

inductive Script.ValueReply where
  /-- The registry holds these bytes, and gives them to a buffer that they fit. -/
  | holding (type : Option UInt32) (bytes : List UInt8)
  | fixed (reply : CounterCatalog.ValueReply)
  deriving DecidableEq, Repr, Inhabited

inductive Script.AnsiTable where
  | latin
  /-- A byte from 0x80 on leads and takes the byte behind it along. -/
  | doubleByte
  | failing
  | failingConversion
  | short
  deriving DecidableEq, Repr, Inhabited

structure Script where
  replies : List Script.CounterReply := []
  hasModule : Bool := true
  messages : List (Nat × String) := []
  lastError : UInt32 := 317
  ansi : Script.AnsiTable := .latin
  openStatus : UInt32 := 0
  closeStatus : UInt32 := 0
  values : List Script.ValueReply := []
  deriving DecidableEq, Repr, Inhabited

namespace Script

def doubleByteUnits : List UInt8 → List UInt16
  | [] => []
  | [byte] => [if byte < 0x80 then byte.toUInt16 else 0xFFFD]
  | first :: second :: rest =>
    if first < 0x80 then first.toUInt16 :: doubleByteUnits (second :: rest)
    else .ofNat (256 * first.toNat + second.toNat) :: doubleByteUnits rest

def AnsiTable.measure : AnsiTable → List UInt8 → Nat
  | .failing, _ => 0
  | .doubleByte, bytes => (doubleByteUnits bytes).length
  | _, bytes => bytes.length

def AnsiTable.convert : AnsiTable → List UInt8 → Nat → List UInt16
  | .failing, _, _ | .failingConversion, _, _ => []
  | .latin, bytes, _ => Encoding.narrow.units bytes
  | .doubleByte, bytes, _ => doubleByteUnits bytes
  | .short, bytes, capacity => (Encoding.narrow.units bytes).take (capacity - 1)

def takesCounterReply : Call → Bool
  | .lookup _ | .enumerate _ | .nativeLookup _ | .nativeEnumerate _ _ => true
  | _ => false

def takesValueReply : Call → Bool
  | .queryValue _ => true
  | _ => false

def count (kind : Call → Bool) (past : List Exchange) : Nat := past.countP fun e => kind e.call

def exhausted : CounterReply := { status := 0xDEADBEEF }

def counterReply (s : Script) (past : List Exchange) : CounterReply :=
  s.replies.getD (count takesCounterReply past) exhausted

/-- Native functions write no more than the size that they were passed. -/
def cut (e : Encoding) (slot : Slot) (w : Written) : Written :=
  { w with data := w.data.take (e.byteLength slot.size) }

/-- The last value reply is given again and again; where there is none, no value exists. -/
def valueReply (s : Script) (past : List Exchange) : Script.ValueReply :=
  match s.values[count takesValueReply past]? with
  | some reply => reply
  | none => s.values.getLast?.getD (.fixed { status := 2 })

def ValueReply.answer (r : ValueRequest) : ValueReply → CounterCatalog.ValueReply
  | .fixed reply => reply
  | .holding type bytes =>
    let size := some (.ofNat bytes.length)
    match r.data.buffer with
    | none => { status := 0, type, data := { size } }
    | some buffer =>
      if bytes.length ≤ buffer.length then { status := 0, type, data := { size, data := bytes } }
      else { status := Registry.moreData, type, data := { size } }

def messageUnits (s : Script) (status : UInt32) : List UInt16 :=
  match s.messages.lookup status.toNat with
  | some text => Text.Utf16.encode text
  | none => []

def keyHandle : Int := 4660

def system (s : Script) : System := fun past call =>
  match call with
  | .lookup _ =>
    let reply := s.counterReply past
    { status := reply.status, name := reply.name }
  | .enumerate _ =>
    let reply := s.counterReply past
    { status := reply.status, counters := reply.counters, instances := reply.instances }
  | .nativeLookup request =>
    let reply := s.counterReply past
    { status := reply.status, name := cut request.encoding request.name reply.name }
  | .nativeEnumerate request _ =>
    let reply := s.counterReply past
    { status := reply.status
      counters := cut request.encoding request.counters reply.counters
      instances := cut request.encoding request.instances reply.instances }
  | .readTable => .ok []
  | .findModule _ => s.hasModule
  | .formatMessage request =>
    { units := s.messageUnits request.status, buffer := past.length + 1 }
  | .lastError => s.lastError
  | .freeMessage => ()
  | .measureAnsi bytes => s.ansi.measure bytes
  | .convertAnsi bytes capacity => s.ansi.convert bytes capacity
  | .openKey _ _ _ =>
    { status := s.openStatus, handle := if s.openStatus = 0 then keyHandle else 0 }
  | .closeKey _ => s.closeStatus
  | .queryValue request => (s.valueReply past).answer request

end Script

end CounterCatalog
