import CounterCatalog.Text.Characters
import CounterCatalog.Text.Unicode

set_option autoImplicit false

namespace CounterCatalog

inductive Encoding where
  | narrow
  | wide
  deriving DecidableEq, Repr, Inhabited

namespace Encoding

def width : Encoding → Nat
  | .narrow => 1
  | .wide => 2

theorem width_pos (e : Encoding) : 0 < e.width := by cases e <;> decide

def byteLength (e : Encoding) (units : UInt32) : Nat := units.toNat * e.width

def onValues : List String := ["1", "true", "yes", "on"]

def isOn (flag : String) : Bool := onValues.contains ((Text.trim flag).map Char.toLower)

def ofFlag (flag : Option String) : Encoding := if flag.any isOn then .narrow else .wide

/-- A flag whose bytes are no text counts as none. -/
def ofFlagBytes (flag : Option (List UInt8)) : Encoding := ofFlag (flag.bind Text.Utf8.decode?)

/-- Two bytes make a unit, the lower half first; an odd last byte makes none. -/
def wideUnits : List UInt8 → List UInt16
  | low :: high :: rest => .ofNat (low.toNat + 256 * high.toNat) :: wideUnits rest
  | _ => []

def units : Encoding → List UInt8 → List UInt16
  | .narrow, bytes => bytes.map fun byte => byte.toUInt16
  | .wide, bytes => wideUnits bytes

def wideBytes (units : List UInt16) : List UInt8 :=
  units.flatMap fun unit => [.ofNat (unit.toNat % 256), .ofNat (unit.toNat / 256)]

def bytes : Encoding → List UInt16 → List UInt8
  | .narrow, units => units.map fun unit => unit.toUInt8
  | .wide, units => wideBytes units

theorem wideUnits_wideBytes (us : List UInt16) : wideUnits (wideBytes us) = us := by
  induction us with
  | nil => rfl
  | cons u us ih =>
    have hu := u.toNat_lt
    have low : (UInt8.ofNat (u.toNat % 256)).toNat = u.toNat % 256 := by
      simp [UInt8.toNat_ofNat']
    have high : (UInt8.ofNat (u.toNat / 256)).toNat = u.toNat / 256 := by
      simp only [UInt8.toNat_ofNat']
      omega
    have whole : UInt16.ofNat (u.toNat % 256 + 256 * (u.toNat / 256)) = u := by
      rw [Nat.mod_add_div, UInt16.ofNat_toNat]
    change .ofNat ((UInt8.ofNat (u.toNat % 256)).toNat +
      256 * (UInt8.ofNat (u.toNat / 256)).toNat) :: wideUnits (wideBytes us) = _
    rw [low, high, whole, ih]

end Encoding

def Encoding.terminator (e : Encoding) : List UInt8 := List.replicate e.width 0

end CounterCatalog

namespace CounterCatalog.Wire

def stringUnits (units : List UInt16) : List UInt16 := units.takeWhile (· ≠ 0)

/-- The entries up to the first empty one; `pending` holds the last units in reverse. -/
def entriesFrom (pending : List UInt16) : List UInt16 → List (List UInt16)
  | [] => if pending = [] then [] else [pending.reverse]
  | unit :: rest =>
    if unit = 0 then
      if pending = [] then [] else pending.reverse :: entriesFrom [] rest
    else entriesFrom (unit :: pending) rest

def entries (units : List UInt16) : List (List UInt16) := entriesFrom [] units

/-- The terminated entries up to the first that a second zero follows; `pending` holds the last
units in reverse. -/
def terminatedEntriesFrom (pending : List UInt16) : List UInt16 → List (List UInt16)
  | [] => []
  | unit :: rest =>
    if unit = 0 then
      if rest.head? = some 0 then [pending.reverse]
      else pending.reverse :: terminatedEntriesFrom [] rest
    else terminatedEntriesFrom (unit :: pending) rest

def terminatedEntries (units : List UInt16) : List (List UInt16) := terminatedEntriesFrom [] units

def listUnits (entries : List (List UInt16)) : List UInt16 :=
  entries.flatMap (· ++ [0]) ++ [0]

end CounterCatalog.Wire
