import CounterCatalog.Wire.Buffer
import CounterCatalog.Wire.Encoding

set_option autoImplicit false

/-!
# Calls to the system

Everything that the library asks of its surroundings is a `Call`, and `Call.Reply` is what comes
back. A `System` answers each call, and its answer may depend on all that was said before; nothing
else is assumed of it. In particular a size it writes need not fit the data it writes.
-/
namespace CounterCatalog

/-- Only Windows formats messages and knows an ANSI code page. -/
inductive Platform where
  | plain
  | windows
  deriving DecidableEq, Repr, Inhabited

/-- An output of a call: the buffer to fill, if one is passed, and the size that goes in. -/
structure Slot where
  buffer : Option Buffer
  size : UInt32
  deriving DecidableEq, Repr, Inhabited

/-- What a call writes to a slot: a size, if it writes one, and the leading bytes of the buffer. -/
structure Written where
  size : Option UInt32 := none
  data : List UInt8 := []
  deriving DecidableEq, Repr, Inhabited

namespace Slot

def probe : Slot := { buffer := none, size := 0 }

def allocate (e : Encoding) (units : UInt32) : Slot where
  buffer := some (Buffer.zeroed (e.byteLength units))
  size := units

/-- The slot once the call has returned; data beyond the buffer is cut. -/
def receive (s : Slot) (w : Written) : Slot where
  buffer := s.buffer.map fun buffer => buffer.write w.data
  size := w.size.getD s.size

def lower (e : Encoding) (s : Slot) : Slot :=
  match s.buffer with
  | none => s
  | some buffer => { s with size := .ofNat (min s.size.toNat (buffer.length / e.width)) }

end Slot

/-- A question for the name of an index. `Text` is the form in which strings are passed. -/
structure LookupRequest (Text : Type) where
  encoding : Encoding
  machine : Option Text
  index : UInt32
  name : Slot
  deriving DecidableEq, Repr

structure EnumerationRequest (Text : Type) where
  encoding : Encoding
  source : Option Text
  machine : Option Text
  object : Text
  counters : Slot
  instances : Slot
  detail : UInt32
  deriving DecidableEq, Repr

structure LookupReply where
  status : UInt32
  name : Written := {}
  deriving DecidableEq, Repr, Inhabited

structure EnumerationReply where
  status : UInt32
  counters : Written := {}
  instances : Written := {}
  deriving DecidableEq, Repr, Inhabited

structure MessageRequest where
  flags : UInt32
  fromModule : Bool
  status : UInt32
  language : UInt32
  size : UInt32
  deriving DecidableEq, Repr

/-- The text, and the buffer that was allocated for it. Without a text there is none. -/
structure MessageReply where
  units : List UInt16
  buffer : Int
  deriving DecidableEq, Repr, Inhabited

structure OpenReply where
  status : UInt32
  handle : Int
  deriving DecidableEq, Repr, Inhabited

structure ValueRequest where
  handle : Int
  name : String
  wantsType : Bool
  data : Slot
  deriving DecidableEq, Repr

structure ValueReply where
  status : UInt32
  type : Option UInt32 := none
  data : Written := {}
  deriving DecidableEq, Repr, Inhabited

inductive Call where
  | lookup (request : LookupRequest String)
  | enumerate (request : EnumerationRequest String)
  /-- From the native function; strings are passed as bytes with a terminator. -/
  | nativeLookup (request : LookupRequest (List UInt8))
  | nativeEnumerate (request : EnumerationRequest (List UInt8)) (flags : UInt32)
  | readTable
  | findModule (name : String)
  | formatMessage (request : MessageRequest)
  | lastError
  /-- Frees the buffer of a text that was formatted. -/
  | freeMessage {buffer : Int}
  /-- How many units the bytes have in the ANSI code page; zero is a failure. -/
  | measureAnsi (bytes : List UInt8)
  /-- The units of the bytes in the ANSI code page; none is a failure. -/
  | convertAnsi (bytes : List UInt8) (capacity : Nat)
  | openKey (parent : Int) (key : String) (access : UInt32)
  | closeKey (handle : Int)
  | queryValue (request : ValueRequest)
  deriving DecidableEq, Repr

abbrev Call.Reply : Call → Type
  | .lookup _ | .nativeLookup _ => LookupReply
  | .enumerate _ | .nativeEnumerate _ _ => EnumerationReply
  | .readTable => Except UInt32 (List String)
  | .findModule _ => Bool
  | .formatMessage _ => MessageReply
  | .lastError => UInt32
  | .freeMessage => Unit
  | .measureAnsi _ => Nat
  | .convertAnsi _ _ => List UInt16
  | .openKey _ _ _ => OpenReply
  | .closeKey _ => UInt32
  | .queryValue _ => ValueReply

structure Exchange where
  call : Call
  reply : call.Reply

/-- What answers the calls, given all exchanges so far, the oldest first. -/
def System : Type := List Exchange → (call : Call) → call.Reply

end CounterCatalog
