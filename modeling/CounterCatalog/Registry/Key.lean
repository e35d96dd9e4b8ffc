import CounterCatalog.CallError.Message
import CounterCatalog.Text.Characters
import CounterCatalog.Text.Quoted

set_option autoImplicit false

namespace CounterCatalog.Registry

def localMachine : Int := -2147483646

def readAccess : UInt32 := 0x20019

def invalidParameter : UInt32 := 87

def invalidString (what text : String) : CallError :=
  (CallError.ofStatus invalidParameter).annotate
    (what ++ " contains NUL character: " ++ Text.quoted text)

def openForReading (p : Platform) (parent : Int) (key : String) : Query (Except CallError Int) :=
  if Text.isTerminable key then do
    let reply ← Query.ask (.openKey parent (Text.beforeNul key) readAccess)
    if reply.status = 0 then return .ok reply.handle
    else return .error (← CallError.ofCall p reply.status ("RegOpenKeyExW with key: " ++ key))
  else pure (.error (invalidString "Registry key" key))

def close (p : Platform) (handle : Int) : Query (Except CallError Unit) := do
  let status ← Query.ask (.closeKey handle)
  if (status : UInt32) = 0 then return .ok ()
  else return .error (← CallError.ofCall p status "RegCloseKey")

def releaseKey (p : Platform) (handle : Int) : Query Unit := do
  match ← close p handle with
  | .ok () => pure ()
  | .error error => Query.warn ("RegCloseKey Error: " ++ error.display)

def tryKey (p : Platform) (parent : Int) (key : String) : Query (Except CallError Int) := do
  match ← openForReading p parent key with
  | .error error => return .error error
  | .ok handle =>
    releaseKey p handle
    return .ok handle

end CounterCatalog.Registry
