import CounterCatalog.Text.Characters

set_option autoImplicit false

/-!
Windows-1252. The bytes from 0x80 to 0x9F have the characters of `upper`, where the five without a
printed form stand for the control of their own number. A character without a byte is written as a
decimal reference, `&#N;`.
-/
namespace CounterCatalog.Text.CodePage

def upper : List Char :=
  ['\u20AC', '\u0081', '\u201A', '\u0192', '\u201E', '\u2026', '\u2020', '\u2021',
   '\u02C6', '\u2030', '\u0160', '\u2039', '\u0152', '\u008D', '\u017D', '\u008F',
   '\u0090', '\u2018', '\u2019', '\u201C', '\u201D', '\u2022', '\u2013', '\u2014',
   '\u02DC', '\u2122', '\u0161', '\u203A', '\u0153', '\u009D', '\u017E', '\u0178']

/-- Both a byte and a character of this number stand for each other. -/
def isPlain (n : Nat) : Bool := n < 0x80 || (0xA0 ≤ n && n < 0x100)

def charOf (byte : UInt8) : Char :=
  if isPlain byte.toNat then Char.ofNat byte.toNat
  else upper.getD (byte.toNat - 0x80) '\uFFFD'

def byteOf? (c : Char) : Option UInt8 :=
  if isPlain c.toNat then some (.ofNat c.toNat)
  else (upper.idxOf? c).map fun position => .ofNat (0x80 + position)

def decode (bytes : List UInt8) : String := String.ofList (bytes.map charOf)

def reference (c : Char) : List UInt8 :=
  ("&#" ++ Numeral.decimal c.toNat ++ ";").toList.map fun d => .ofNat d.toNat

def encodeChar (c : Char) : List UInt8 :=
  match byteOf? c with
  | some byte => [byte]
  | none => reference c

def encode (s : String) : List UInt8 := s.toList.flatMap encodeChar

end CounterCatalog.Text.CodePage
