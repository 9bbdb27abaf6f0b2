import Galley.Json.Literal

/-! Values written on one line without spaces. The members of an object are written in their order. -/
namespace Galley

/-- The bytes of a list of decimal digits. -/
def Number.digitBytes (digits : List Nat) : List UInt8 := digits.map fun d => UInt8.ofNat (48 + d)

/-- A number as it was written. -/
def Number.encode (n : Number) : List UInt8 :=
  (if n.negative then [0x2D] else []) ++ Number.digitBytes n.whole ++
    (if n.fraction.isEmpty then [] else 0x2E :: Number.digitBytes n.fraction) ++
    match n.exponent with
    | none => []
    | some (negative, digits) => 0x65 :: (if negative then [0x2D] else []) ++ Number.digitBytes digits

/-- A literal between its quotes. -/
def Literal.encode (l : Literal) : List UInt8 := 0x22 :: l.body ++ [0x22]

namespace Json

mutual
/-- The bytes of a value. -/
def encode : Json → List UInt8
  | null => [0x6E, 0x75, 0x6C, 0x6C]
  | bool true => [0x74, 0x72, 0x75, 0x65]
  | bool false => [0x66, 0x61, 0x6C, 0x73, 0x65]
  | number n => n.encode
  | string s => s.encode
  | array items => 0x5B :: encodeItems items ++ [0x5D]
  | object members => 0x7B :: encodeMembers members ++ [0x7D]

/-- The items of an array, a comma between them. -/
def encodeItems : List Json → List UInt8
  | [] => []
  | [v] => encode v
  | v :: more => encode v ++ 0x2C :: encodeItems more

/-- The members of an object, a comma between them. -/
def encodeMembers : List (Literal × Json) → List UInt8
  | [] => []
  | [(name, v)] => name.encode ++ 0x3A :: encode v
  | (name, v) :: more => name.encode ++ 0x3A :: encode v ++ 0x2C :: encodeMembers more
end

/-- A value as a byte array. -/
def toBytes (v : Json) : ByteArray := v.encode.toByteArray

/-- A value as a text; a value whose literals hold ill-formed UTF-8 has none. -/
def toText? (v : Json) : Option String := Text.utf8? v.toBytes

end Json
end Galley
