import Galley.Text.Utf8
import Galley.Text.Hex

/-! JSON values. The leaves keep their written form: a string literal is the bytes between its quotes, a number
its digits. Reading a literal as a text can fail (a lone surrogate, ill-formed UTF-8), and so can reading a number
as an integer; a leaf that nobody reads therefore never refuses a document, however odd it is. -/
namespace Galley

/-- A number as written: digits are numbers below ten, most significant first. -/
structure Number where
  negative : Bool
  whole : List Nat
  fraction : List Nat
  /-- The exponent with its sign, when one is written. -/
  exponent : Option (Bool × List Nat)
  /-- No point and no exponent is written. -/
  isWhole : Bool

/-- A string literal: the bytes between its quotes, escapes not yet resolved. -/
structure Literal where
  body : List UInt8

/-- A JSON value. The members of an object keep their order and their repetitions. -/
inductive Json where
  | null
  | bool (value : Bool)
  | number (value : Number)
  | string (value : Literal)
  | array (items : List Json)
  | object (members : List (Literal × Json))

namespace Number

/-- The value of a list of decimal digits. -/
def ofDigits (digits : List Nat) : Nat := digits.foldl (fun n d => 10 * n + d) 0

/-- The decimal digits of a natural number, without leading zeros. -/
def digits (n : Nat) : List Nat := (Nat.toDigits 10 n).map fun c => c.toNat - 48

/-- A natural number as written. -/
def ofNat (n : Nat) : Number :=
  { negative := false, whole := digits n, fraction := [], exponent := none, isWhole := true }

/-- The natural number a number is written as: digits only, no sign, point or exponent. -/
def nat? (n : Number) : Option Nat :=
  if n.isWhole && !n.negative then some (ofDigits n.whole) else none

/-- The integer a number is written as. Minus zero is not one. -/
def int? (n : Number) : Option Int :=
  let value := ofDigits n.whole
  if !n.isWhole then none
  else if !n.negative then some value
  else if value == 0 then none
  else some (-value)

end Number

namespace Json

/-- A natural number. -/
def nat (n : Nat) : Json := number (.ofNat n)

/-- An integer. -/
def int (n : Int) : Json := number { Number.ofNat n.natAbs with negative := n < 0 }

end Json
end Galley
