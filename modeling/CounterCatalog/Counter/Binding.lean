import CounterCatalog.Counter.Detail
import CounterCatalog.System.Query
import CounterCatalog.Text.Characters
import CounterCatalog.Text.Unicode

set_option autoImplicit false

/-!
# Bindings to the counter calls

A direct binding hands its request to a counter service as it is. The native binding passes
strings as terminated bytes, UTF-8 in narrow encoding and UTF-16 in wide, and in wide encoding it
lends the call zeroed units of its own and copies all of them back. A request with a string that
cannot be passed gets no further than the native binding and changes nothing.
-/
namespace CounterCatalog

structure LookupOutcome where
  status : UInt32
  name : Slot
  deriving DecidableEq, Repr, Inhabited

structure EnumerationOutcome where
  status : UInt32
  counters : Slot
  instances : Slot
  deriving DecidableEq, Repr, Inhabited

namespace Buffer

def scratch (b : Buffer) : Buffer := zeroed (b.length / 2 * 2)

/-- The buffer once all units of its scratch, the data written to it, are copied back. -/
def receiveUnits (b : Buffer) (data : List UInt8) : Buffer :=
  b.overwrite (b.scratch.write data)

end Buffer

namespace Slot

def lend (e : Encoding) (s : Slot) : Slot :=
  match e with
  | .narrow => s
  | .wide => { s with buffer := s.buffer.map Buffer.scratch }

def takeBack (e : Encoding) (s : Slot) (w : Written) : Slot :=
  match e with
  | .narrow => s.receive w
  | .wide =>
    { buffer := s.buffer.map fun buffer => buffer.receiveUnits w.data
      size := w.size.getD s.size }

def content (s : Slot) : List UInt8 :=
  match s.buffer with
  | some buffer => buffer.content
  | none => []

end Slot

/-- The bytes that a string is passed as, terminator included. -/
def Encoding.argument? (e : Encoding) (s : String) : Option (List UInt8) :=
  match e with
  | .narrow => if Text.hasNul s then none else some (Text.Utf8.encode s ++ e.terminator)
  | .wide =>
    if Text.isTerminable s then
      some (Encoding.wideBytes (Text.Utf16.encode (Text.beforeNul s)) ++ e.terminator)
    else none

def Encoding.optionalArgument? (e : Encoding) : Option String → Option (Option (List UInt8))
  | none => some none
  | some s => (e.argument? s).map some

def LookupRequest.lend? (r : LookupRequest String) : Option (LookupRequest (List UInt8)) := do
  return {
    encoding := r.encoding
    machine := ← r.encoding.optionalArgument? r.machine
    index := r.index
    name := r.name.lend r.encoding }

def EnumerationRequest.lend? (r : EnumerationRequest String) :
    Option (EnumerationRequest (List UInt8)) := do
  return {
    encoding := r.encoding
    source := ← r.encoding.optionalArgument? r.source
    machine := ← r.encoding.optionalArgument? r.machine
    object := ← r.encoding.argument? r.object
    counters := r.counters.lend r.encoding
    instances := r.instances.lend r.encoding
    detail := r.detail }

inductive Binding where
  | direct
  | native
  deriving DecidableEq, Repr, Inhabited

namespace Binding

def lookup (b : Binding) (r : LookupRequest String) : Query LookupOutcome :=
  match b with
  | .direct => do
    let reply ← Query.ask (.lookup r)
    return { status := reply.status, name := r.name.receive reply.name }
  | .native =>
    match r.lend? with
    | none => pure { status := Status.invalidArgument, name := r.name }
    | some lent => do
      let reply ← Query.ask (.nativeLookup lent)
      return { status := reply.status, name := r.name.takeBack r.encoding reply.name }

def enumerate (b : Binding) (r : EnumerationRequest String) : Query EnumerationOutcome :=
  match b with
  | .direct => do
    let reply ← Query.ask (.enumerate r)
    return {
      status := reply.status
      counters := r.counters.receive reply.counters
      instances := r.instances.receive reply.instances }
  | .native =>
    match r.lend? with
    | none =>
      pure {
        status := Status.invalidArgument, counters := r.counters, instances := r.instances }
    | some lent => do
      let reply ← Query.ask (.nativeEnumerate lent 0)
      return {
        status := reply.status
        counters := r.counters.takeBack r.encoding reply.counters
        instances := r.instances.takeBack r.encoding reply.instances }

end Binding

end CounterCatalog
