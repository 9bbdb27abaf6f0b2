import Galley.Decimal.Spelled
import Galley.Renderer.Arithmetic
import Galley.Text.Latin1

/-! Conversions of formats, each of which shows an argument in a field. Arguments are sequences of bytes, held as
characters of the same numbers. -/
namespace Galley

/-- A conversion of a format. -/
structure Conversion where
  flags : List Char
  width : Nat
  precision : Option Nat
  letter : Char

namespace Conversion

/-- The bytes of a text. -/
def bytesOf (text : String) : List UInt8 := (Text.latin1Bytes text).data.toList

/-! ## Fields -/

/-- Fills a field up to its width. Zeros stand between a sign and the digits. -/
def fill (c : Conversion) (zeros : Bool) (sign bytes : List UInt8) : List UInt8 :=
  let n := c.width - (sign.length + bytes.length)
  if c.flags.contains '-' then sign ++ bytes ++ List.replicate n 0x20
  else if zeros then sign ++ List.replicate n 0x30 ++ bytes
  else List.replicate n 0x20 ++ sign ++ bytes

/-- A text in a field, cut to the precision. -/
def text (c : Conversion) (bytes : List UInt8) : List UInt8 :=
  c.fill false [] (match c.precision with
    | some n => bytes.take n
    | none => bytes)

/-- The number is shown with its sign. -/
def isSigned (c : Conversion) : Bool := c.letter == 'd' || c.letter == 'i'

/-- The sign in front of a number. -/
def signOf (c : Conversion) (isNegative : Bool) : String :=
  if isNegative then "-" else if c.flags.contains '+' then "+" else if c.flags.contains ' ' then " " else ""

/-- A number in a field. -/
def number (c : Conversion) (n : Int) : List UInt8 :=
  let m := if c.isSigned then n.natAbs else (n % Int.ofNat (Nat.pow 2 64)).toNat
  let base := if c.letter == 'o' then 8 else if c.letter == 'x' || c.letter == 'X' then 16 else 10
  let ds := if m == 0 && c.precision == some 0 then [] else Nat.toDigits base m
  let ds := if c.letter == 'X' then ds.map Char.toUpper else ds
  let ds := List.replicate (c.precision.getD 0 - ds.length) '0' ++ ds
  let isMarked := c.flags.contains '#' && m != 0
  let ds := if isMarked && c.letter == 'o' && ds.head? != some '0' then '0' :: ds else ds
  let sign :=
    if c.isSigned then c.signOf (decide (n < 0))
    else if isMarked && c.letter == 'x' then "0x" else if isMarked && c.letter == 'X' then "0X" else ""
  c.fill (c.flags.contains '0' && c.precision.isNone) (bytesOf sign) (bytesOf (.ofList ds))

/-- A real number of a format in a field. What is not a number can have a sign too. -/
def real (c : Conversion) (f : Decimal.Format) (isNegative : Bool) (value : Decimal.Real) : List UInt8 :=
  let l : Decimal.Look := { pointed := c.flags.contains '#' }
  let places := c.precision.getD 6
  let shown (x : Decimal.Binary) : String := match c.letter.toLower with
    | 'f' => x.fixed l places
    | 'e' => x.scientific l places
    | 'a' => x.hexadecimal l ((f.digits - 1) / 4) c.precision
    | _ => x.general { l with trimmed := !l.pointed } (max 1 places)
  let cased (text : String) := if c.letter.isUpper then text.map Char.toUpper else text
  let filled (zeros isNegative : Bool) (front text : String) :=
    c.fill zeros (bytesOf (c.signOf isNegative ++ cased front)) (bytesOf (cased text))
  match value with
  | .notANumber => filled false isNegative "" "nan"
  | .infinite isNegative => filled false isNegative "" "inf"
  | .finite isNegative x =>
    filled (c.flags.contains '0') isNegative (if c.letter.toLower == 'a' then "0x" else "") (shown x)

/-- The letters of conversions that show real numbers. -/
def reals : List Char := ['a', 'A', 'e', 'E', 'f', 'F', 'g', 'G']

/-! ## Arguments -/

/-- An argument as a number. -/
structure Operand (α : Type) where
  value : α
  /-- What follows the number: all of the argument if there is none. -/
  rest : List Char
  isNumber : Bool
  /-- The number is too great or too small to be held. -/
  isBeyond : Bool

/-- An argument that a code stands for. -/
def Operand.exact {α : Type} (value : α) : Operand α := { value, rest := [], isNumber := true, isBeyond := false }

/-- An argument that is no number stands for zero. -/
def Operand.none {α : Type} (zero : α) (argument : String) : Operand α :=
  { value := zero, rest := argument.toList, isNumber := false, isBeyond := false }

/-- The number that an argument spells, between two bounds. If none may be negative, a sign in front of a number that
could be held only turns it around. -/
def wholeOf (least greatest : Int) (argument : String) : Operand Int :=
  let cs := argument.toList.dropWhile fun c => c == ' ' || ('\t' ≤ c && c ≤ '\r')
  let (isNegative, ds) := match cs with
    | '-' :: ds => (true, ds)
    | '+' :: ds => (false, ds)
    | ds => (false, ds)
  if !ds.head?.any Char.isDigit then .none 0 argument
  else
    let (m, rest) := Formula.digitsAt ds
    let n := if isNegative then -Int.ofNat m else Int.ofNat m
    let isBeyond := if least < 0 then n < least || greatest < n else greatest < m
    let bound := if isNegative && least < 0 then least else greatest
    { value := if isBeyond then bound else n, rest, isNumber := true, isBeyond }

/-- The number of an argument with a sign, and of one without. -/
def signedOf : String → Operand Int := wholeOf (-Int.ofNat (Nat.pow 2 63)) (Int.ofNat (Nat.pow 2 63) - 1)
def unsignedOf : String → Operand Int := wholeOf 0 (Int.ofNat (Nat.pow 2 64) - 1)

/-- The real number of a format that an argument spells, and whether it has a minus sign. -/
def realOf (f : Decimal.Format) (argument : String) : Operand (Bool × Decimal.Real) :=
  match f.readingAt? argument.toList with
  | some r => { value := (r.isNegative, r.value), rest := r.rest, isNumber := true, isBeyond := r.isBeyond }
  | Option.none => .none (false, f.ofNat 0) argument

end Conversion
end Galley
