import CounterCatalog.CallError.Basic
import CounterCatalog.System.Call
import CounterCatalog.System.Query
import CounterCatalog.Text.Unicode

set_option autoImplicit false

namespace CounterCatalog

namespace MessageRequest

def allocateBuffer : UInt32 := 0x100

def ignoreInserts : UInt32 := 0x200

def searchModule : UInt32 := 0x800

def searchSystem : UInt32 := 0x1000

def ofStatus (status : UInt32) (fromModule : Bool) : MessageRequest where
  flags :=
    if fromModule then ignoreInserts ||| searchSystem ||| allocateBuffer ||| searchModule
    else ignoreInserts ||| searchSystem ||| allocateBuffer
  fromModule := fromModule
  status := status
  language := 0
  size := 0

end MessageRequest

/-- The system's text for a status, freed once it is read, or the status of not getting one. -/
def systemMessage (status : UInt32) : Query (Except UInt32 String) := do
  let found ← Query.ask (.findModule "pdh.dll")
  let reply ← Query.ask (.formatMessage (.ofStatus status found))
  if reply.units = [] then
    return .error (← Query.ask .lastError)
  else
    let _ ← Query.ask (@Call.freeMessage reply.buffer)
    return .ok (Text.Utf16.decode reply.units)

namespace CallError

/-- The failure to get a message becomes the cause; the status stays. -/
def withAnswer (e : CallError) : Except UInt32 String → CallError
  | .ok message => e.describe message
  | .error failure =>
    (e.describe
      ("FormatMessageW failed while formatting error " ++ Text.Numeral.statusCode e.status)).blame
      (.ofStatus failure)

def explain (p : Platform) (e : CallError) : Query CallError :=
  match p, e.message with
  | .windows, none => do return e.withAnswer (← systemMessage e.status)
  | _, _ => pure e

def ofCall (p : Platform) (status : UInt32) (comment : String) : Query CallError := do
  return (← explain p (.ofStatus status)).annotate comment

end CallError

end CounterCatalog
