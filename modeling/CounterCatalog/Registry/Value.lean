import CounterCatalog.Registry.Key
import CounterCatalog.Wire.Reading

set_option autoImplicit false

/-!
The size of a value may change between any two calls. So a read begins with a buffer of the hinted
size, or of `firstSize` for want of a hint, and doubles it for as long as the value does not fit.
A doubling beyond `sizeLimit` ends the read, so the number of calls is bounded.
-/
namespace CounterCatalog.Registry

def firstSize : Nat := 8 * 1024

def sizeLimit : Nat := 64 * 1024 * 1024

def moreData : UInt32 := 234

def invalidData : UInt32 := 13

def multiString : UInt32 := 7

structure ValueName where
  key : Int
  name : String
  deriving DecidableEq, Repr

structure Reading where
  result : Except CallError Unit
  buffer : Buffer
  type : UInt32

def ValueName.probe (v : ValueName) : ValueRequest where
  handle := v.key
  name := Text.beforeNul v.name
  wantsType := false
  data := .probe

def ValueName.fetch (v : ValueName) (wantsType : Bool) (buffer : Buffer) : ValueRequest where
  handle := v.key
  name := Text.beforeNul v.name
  wantsType := wantsType
  data := { buffer := some buffer, size := .ofNat buffer.length }

def sizeHint (p : Platform) (v : ValueName) : Query (Except CallError UInt32) := do
  let reply ← Query.ask (.queryValue v.probe)
  if reply.status = 0 then return .ok (v.probe.data.receive reply.data).size
  else
    return .error (← CallError.ofCall p reply.status
      ("Getting buffer size hint for registry value " ++ Text.quoted v.name ++ " failed"))

/-- The size of the first buffer; it is never zero. A hint that fails is reported and no more. -/
def startSize (p : Platform) (v : ValueName) : Query { size : Nat // 0 < size } := do
  match ← sizeHint p v with
  | .ok hint =>
    if h : 0 < hint.toNat then return ⟨hint.toNat, h⟩
    else return ⟨firstSize, by decide⟩
  | .error error => do
    Query.warn error.display
    return ⟨firstSize, by decide⟩

def limitError (size : Nat) : CallError :=
  (CallError.ofStatus moreData).annotate
    ("RegQueryValueExW reached buffer limit: " ++ Text.Numeral.decimal size ++ " bytes")

/-- Reads into the buffer, and into one twice as large while the value does not fit. -/
def readGrowing (p : Platform) (v : ValueName) (wantsType : Bool) (type : UInt32)
    (buffer : Buffer) (positive : 0 < buffer.length) : Query Reading := do
  let reply ← Query.ask (.queryValue (v.fetch wantsType buffer))
  let filled := buffer.write reply.data.data
  let type := if wantsType then reply.type.getD type else type
  let doubled := 2 * buffer.length
  if reply.status = moreData then
    if within : doubled ≤ sizeLimit then do
      Query.trace ("RegQueryValueExW(" ++ v.name ++ "): growing buffer to "
        ++ Text.Numeral.decimal doubled ++ " bytes")
      readGrowing p v wantsType type (filled.resize doubled)
        (by simp only [doubled, Buffer.length_resize]; omega)
    else return { result := .error (limitError doubled), buffer := filled, type := type }
  else if reply.status = 0 then
    let size := reply.data.size.getD (.ofNat buffer.length)
    return { result := .ok (), buffer := filled.truncate size.toNat, type := type }
  else
    let error ← CallError.ofCall p reply.status ("RegQueryValueExW with query: " ++ v.name)
    return { result := .error error, buffer := filled, type := type }
termination_by sizeLimit - buffer.length
decreasing_by
  simp only [doubled, Buffer.length_resize] at within ⊢
  omega

/-- Reads a value into a buffer, which is zeroed first. A name that cannot be passed leaves the
buffer as it is. -/
def readInto (p : Platform) (v : ValueName) (wantsType : Bool) (buffer : Buffer) :
    Query Reading :=
  if Text.isTerminable v.name then do
    let size ← startSize p v
    readGrowing p v wantsType 0 (.zeroed size.val) size.property
  else pure { result := .error (invalidString "Registry value name" v.name), buffer, type := 0 }

def readValue (p : Platform) (v : ValueName) (wantsType : Bool) :
    Query (Except CallError (Buffer × UInt32)) := do
  let reading ← readInto p v wantsType (.zeroed 0)
  return reading.result.map fun _ => (reading.buffer, reading.type)

def typeError (type : UInt32) : CallError :=
  (CallError.ofStatus invalidData).annotate
    ("Unexpected data type in registry. Expected MULTI_SZ, got: " ++ Text.Numeral.typeCode type)

def readStrings (p : Platform) (v : ValueName) : Query (Except CallError (List String)) := do
  match ← readValue p v true with
  | .error error => return .error error
  | .ok (buffer, type) =>
    if type = multiString then
      let units := Encoding.wide.units buffer.content
      return .ok ((Wire.terminatedEntries units).map Text.Utf16.decode)
    else
      return .error (typeError type)

end CounterCatalog.Registry
