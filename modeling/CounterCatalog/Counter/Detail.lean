set_option autoImplicit false

namespace CounterCatalog.Status

def success : UInt32 := 0

/-- The buffer is too small; the size that the call wrote is the one to try next. -/
def moreData : UInt32 := 0x800007D2

def noObject : UInt32 := 0xC0000BB8

def invalidArgument : UInt32 := 0xC0000BBD

def announcesSize (status : UInt32) : Bool := status == success || status == moreData

end CounterCatalog.Status

namespace CounterCatalog

inductive Detail where
  | novice
  | advanced
  | expert
  | wizard
  deriving DecidableEq, Repr, Inhabited

namespace Detail

def code : Detail → UInt32
  | .novice => 100
  | .advanced => 200
  | .expert => 300
  | .wizard => 400

instance : Ord Detail := ⟨fun a b => compare a.code b.code⟩

end Detail

structure Inventory where
  counters : List String
  instances : List String
  deriving DecidableEq, Repr, Inhabited

def Inventory.display (items : Inventory) : String :=
  "ObjectItems\x7bcounters=[" ++ String.intercalate ", " items.counters ++ "], instances=["
    ++ String.intercalate ", " items.instances ++ "]\x7d"

end CounterCatalog
