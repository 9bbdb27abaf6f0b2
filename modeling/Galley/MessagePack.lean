/-! MessagePack, as far as a record of texts, lists and flags needs it. Every length takes the shortest header
that holds it; lengths are 32-bit words, so a count is taken modulo 2^32. -/
namespace Galley

/-- What can be written: absent, a flag, a text, or a list of such values. A record is the list of its fields. -/
inductive Pack where
  | absent
  | flag (value : Bool)
  | text (value : String)
  | list (items : List Pack)

namespace Pack

/-- The `count` low-order bytes of `n`, most significant first. -/
def bigEndian : Nat → Nat → List UInt8
  | 0, _ => []
  | count + 1, n => UInt8.ofNat (n / Nat.pow 256 count) :: bigEndian count n

/-- The header of a text of `n` bytes. -/
def textHeader (n : Nat) : List UInt8 :=
  let n := n % 4294967296
  if n < 32 then [UInt8.ofNat (0xA0 + n)]
  else if n < 256 then 0xD9 :: bigEndian 1 n
  else if n < 65536 then 0xDA :: bigEndian 2 n
  else 0xDB :: bigEndian 4 n

/-- The header of a list of `n` items. -/
def listHeader (n : Nat) : List UInt8 :=
  let n := n % 4294967296
  if n < 16 then [UInt8.ofNat (0x90 + n)]
  else if n < 65536 then 0xDC :: bigEndian 2 n
  else 0xDD :: bigEndian 4 n

/-- A text with its header. -/
def encodeText (s : String) : List UInt8 :=
  let bytes := s.toUTF8.data.toList
  textHeader bytes.length ++ bytes

mutual
/-- The bytes of a value. -/
def encode : Pack → List UInt8
  | absent => [0xC0]
  | flag false => [0xC2]
  | flag true => [0xC3]
  | text s => encodeText s
  | list items => listHeader items.length ++ encodeAll items

/-- The bytes of several values, one after the other. -/
def encodeAll : List Pack → List UInt8
  | [] => []
  | item :: more => encode item ++ encodeAll more
end

/-- A text that may be absent. -/
def optional : Option String → Pack
  | none => absent
  | some s => text s

end Pack
end Galley
