import Galley.Decimal.Places

/-! Reading real numbers. A text spells digits of base ten or sixteen, with a point among them perhaps and an exponent
behind them, or a word for what is no finite number. The digits are exact; they become the nearest number of a format
with so many binary digits, and that may be too great or too small for the format. -/
namespace Galley.Decimal

/-- What a text spells, apart from its sign. -/
inductive Spelled where
  | notANumber
  | infinite
  /-- `digits * base ^ exponent`. -/
  | scaled (digits base : Nat) (exponent : Int)

/-- The value of a digit. -/
def digitValue (c : Char) : Nat := if c.isDigit then c.toNat - 0x30 else c.toLower.toNat - 0x57

/-- The digits at the front, with a point among them perhaps: their value without the point, how many of them stand
behind it, and what follows. None if there is no digit. -/
def mantissaAt (base : Nat) (isDigit : Char → Bool) (cs : List Char) : Option (Nat × Nat × List Char) :=
  let front := cs.takeWhile isDigit
  let rest := cs.drop front.length
  let behind := if rest.head? == some '.' then (rest.drop 1).takeWhile isDigit else []
  let all := front ++ behind
  if all.isEmpty then none
  else
    let rest := if rest.head? == some '.' then rest.drop (behind.length + 1) else rest
    some (all.foldl (fun n c => base * n + digitValue c) 0, behind.length, rest)

/-- The exponent behind a letter, and what follows it. Without a number there is none. -/
def exponentAt (letter : Char) (cs : List Char) : Int × List Char :=
  match cs with
  | c :: rest =>
    let (isNegative, ds) := match rest with
      | '-' :: ds => (true, ds)
      | '+' :: ds => (false, ds)
      | ds => (false, ds)
    let number := ds.takeWhile Char.isDigit
    if c.toLower == letter && !number.isEmpty then
      let n := Int.ofNat (number.foldl (fun n c => 10 * n + digitValue c) 0)
      (if isNegative then -n else n, ds.drop number.length)
    else (0, cs)
  | [] => (0, [])

/-- What follows the mark of what is not a number: it may be told apart in parentheses. -/
def afterMark (cs : List Char) : List Char :=
  match cs with
  | '(' :: rest =>
    match rest.dropWhile fun c => c.isAlphanum || c == '_' with
    | ')' :: rest => rest
    | _ => cs
  | cs => cs

/-- The words for what is no finite number. -/
def wordAt? (cs : List Char) : Option (Spelled × List Char) :=
  let starts (word : String) := (cs.take word.length).map Char.toLower == word.toList
  if starts "infinity" then some (.infinite, cs.drop 8)
  else if starts "inf" then some (.infinite, cs.drop 3)
  else if starts "nan" then some (.notANumber, afterMark (cs.drop 3))
  else none

/-- What the front of a text spells, and what follows it. -/
def magnitudeAt? (cs : List Char) : Option (Spelled × List Char) :=
  let isHex (c : Char) := c.isDigit || ('a' ≤ c.toLower && c.toLower ≤ 'f')
  let hexadecimal := match cs with
    | '0' :: x :: rest => if x.toLower == 'x' then mantissaAt 16 isHex rest else none
    | _ => none
  match wordAt? cs, hexadecimal with
  | some found, _ => some found
  | none, some (m, places, rest) =>
    let (e, rest) := exponentAt 'p' rest
    some (.scaled m 2 (e - 4 * places), rest)
  | none, none =>
    (mantissaAt 10 Char.isDigit cs).map fun (m, places, rest) =>
      let (e, rest) := exponentAt 'e' rest
      (.scaled m 10 (e - places), rest)

/-! ## Formats -/

/-- Numbers with so many binary digits. The exponent of the last digit has a least value, and every number lies below
two to the power of the bound. -/
structure Format where
  digits : Nat
  least : Int
  bound : Int

/-- The formats of 64 and of 80 bits. -/
def Format.double : Format := { digits := 53, least := -1074, bound := 1024 }
def Format.extended : Format := { digits := 64, least := -16445, bound := 16384 }

/-- A number as it was read. -/
structure Reading where
  isNegative : Bool
  value : Real
  /-- What follows the number. -/
  rest : List Char
  /-- The number is too great or too small to be held. -/
  isBeyond : Bool

namespace Format

/-- The number nearest to a quotient that is not zero, and whether it is too small to be held as exactly as others. -/
def nearest (f : Format) (num den : Nat) : Binary × Bool :=
  let guess : Int := Int.ofNat num.log2 - Int.ofNat den.log2 - f.digits
  let scaled (e : Int) : Nat × Nat := (num * Nat.pow 2 (-e).toNat, den * Nat.pow 2 e.toNat)
  let reached (e : Int) : Bool := (scaled e).1 < (scaled e).2 * Nat.pow 2 f.digits
  let e := max f.least (if reached guess then guess else guess + 1)
  let (n, d) := scaled e
  let m := roundDiv n d
  let (m, e) := if m == Nat.pow 2 f.digits then (m / 2, e + 1) else (m, e)
  let isSmall := m < Nat.pow 2 (f.digits - 1)
  ({ mantissa := m, exponent := e, narrow := m == Nat.pow 2 (f.digits - 1) && f.least < e }, isSmall && n % d != 0)

/-- The number nearest to what is spelled, and whether that is beyond what can be held. -/
def round (f : Format) (isNegative : Bool) : Spelled → Real × Bool
  | .notANumber => (.notANumber, false)
  | .infinite => (.infinite isNegative, false)
  | .scaled m base e =>
    let zero : Binary := { mantissa := 0, exponent := f.least, narrow := false }
    let size : Int := Int.ofNat m.log2 + (if base == 2 then e else 3 * e)
    if m == 0 then (.finite isNegative zero, false)
    else if size > 4 * f.bound then (.infinite isNegative, true)
    else if size < 4 * f.least then (.finite isNegative zero, true)
    else
      let (x, isLost) := f.nearest (m * Nat.pow base e.toNat) (Nat.pow base (-e).toNat)
      if f.bound < x.exponent + f.digits then (.infinite isNegative, true) else (.finite isNegative x, isLost)

/-- The number of this format at the front of a text, behind blanks; none if there is no number. -/
def readingAt? (f : Format) (cs : List Char) : Option Reading :=
  let cs := cs.dropWhile fun c => c == ' ' || ('\t' ≤ c && c ≤ '\r')
  let (isNegative, cs) := match cs with
    | '-' :: rest => (true, rest)
    | '+' :: rest => (false, rest)
    | cs => (false, cs)
  (magnitudeAt? cs).map fun (spelled, rest) =>
    let (value, isBeyond) := f.round isNegative spelled
    { isNegative, value, rest, isBeyond }

/-- A whole number of this format. -/
def ofNat (f : Format) (n : Nat) : Real := (f.round false (.scaled n 2 0)).1

end Format
end Galley.Decimal
