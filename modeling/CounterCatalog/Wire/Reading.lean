import CounterCatalog.System.Call
import CounterCatalog.System.Query
import CounterCatalog.Text.CodePage
import CounterCatalog.Text.Unicode
import CounterCatalog.Wire.Encoding

set_option autoImplicit false

namespace CounterCatalog.Wire

/-- The reading of narrow text for which the system has none. -/
def readUnconverted (bytes : List UInt8) : Query String := do
  Query.debug ("MultiByteToWideChar failed for " ++ Text.Numeral.decimal bytes.length
    ++ " bytes, decoding as Windows-1252")
  return Text.CodePage.decode bytes

/-- Narrow text by the system's code page: asked once for the size and once for the units. -/
def readAnsi (bytes : List UInt8) : Query String := do
  let size ← Query.ask (.measureAnsi bytes)
  if size = 0 then readUnconverted bytes
  else
    let units ← Query.ask (.convertAnsi bytes size)
    if units = [] then readUnconverted bytes
    else return Text.Utf16.decode (units.take size)

def readNarrow : Platform → List UInt8 → Query String
  | .plain, bytes => pure ((Text.Utf8.decode? bytes).getD (Text.CodePage.decode bytes))
  | .windows, bytes => if bytes = [] then pure "" else readAnsi bytes

def readUnits (p : Platform) : Encoding → List UInt16 → Query String
  | .narrow, units => readNarrow p (Encoding.narrow.bytes units)
  | .wide, units => pure (Text.Utf16.decode units)

def readString (p : Platform) (e : Encoding) (bytes : List UInt8) : Query (String × Nat) := do
  let units := stringUnits (e.units bytes)
  return (← readUnits p e units, units.length)

def readEntries (p : Platform) (e : Encoding) : List (List UInt16) → Query (List String)
  | [] => pure []
  | entry :: rest => do return (← readUnits p e entry) :: (← readEntries p e rest)

def readList (p : Platform) (e : Encoding) (bytes : List UInt8) : Query (List String) :=
  readEntries p e (entries (e.units bytes))

end CounterCatalog.Wire
