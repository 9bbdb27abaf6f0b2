import Galley.Decimal.Shortest

/-! Texts of a real number with a given number of places, positional or with an exponent. The places show the exact
value rounded to the nearest; a half goes to the even neighbour. -/
namespace Galley.Decimal

/-- A quotient rounded to the nearest; a half goes to the even neighbour. -/
def roundDiv (num den : Nat) : Nat :=
  let q := num / den
  let twice := 2 * (num % den)
  if twice > den || (twice == den && q % 2 == 1) then q + 1 else q

namespace Binary

/-- The number in multiples of `10 ^ -places`, rounded. -/
def scaled (x : Binary) (places : Int) : Nat :=
  roundDiv (x.mantissa * Nat.pow 2 x.exponent.toNat * Nat.pow 10 places.toNat)
    (Nat.pow 2 (-x.exponent).toNat * Nat.pow 10 (-places).toNat)

/-- The exponent of ten of the first digit. -/
def leading (x : Binary) : Int :=
  let num := x.mantissa * Nat.pow 2 x.exponent.toNat
  let den := Nat.pow 2 (-x.exponent).toNat
  if num ≥ den then Int.ofNat (Nat.toDigits 10 (num / den)).length - 1
  else -Int.ofNat (Nat.toDigits 10 ((den - 1) / num)).length

/-- A digit and some places behind it, as one number, and the exponent of the digit. -/
def digits (x : Binary) (places : Nat) : Nat × Int :=
  if x.mantissa == 0 then (0, 0)
  else
    let d := x.scaled (Int.ofNat places - x.leading)
    if d ≥ Nat.pow 10 (places + 1) then (Nat.pow 10 places, x.leading + 1) else (d, x.leading)

end Binary

/-- How a text with places looks: whether a point stands where no place follows, and whether zeros at the end of the
places are left out. -/
structure Look where
  pointed : Bool := false
  trimmed : Bool := false

/-- A number of multiples of `10 ^ -places`. -/
def Look.positional (l : Look) (n places : Nat) : String :=
  let text := Nat.toDigits 10 n
  let text := List.replicate (places + 1 - text.length) '0' ++ text
  let behind := text.drop (text.length - places)
  let behind := if l.trimmed then (behind.reverse.dropWhile (· == '0')).reverse else behind
  .ofList (text.take (text.length - places) ++ (if behind.isEmpty && !l.pointed then [] else '.' :: behind))

/-- The text with some places. -/
def Binary.fixed (x : Binary) (l : Look) (places : Nat) : String := l.positional (x.scaled places) places

/-- The text of a first digit and an exponent, which has at least two places. -/
def exponential (l : Look) (places : Nat) (digits : Nat × Int) : String :=
  let size := Nat.toDigits 10 digits.2.natAbs
  let sign := if digits.2 < 0 then '-' else '+'
  l.positional digits.1 places ++ .ofList ('e' :: sign :: List.replicate (2 - size.length) '0' ++ size)

/-- The text with an exponent and some places. -/
def Binary.scientific (x : Binary) (l : Look) (places : Nat) : String := exponential l places (x.digits places)

/-- The text with some digits that count, with an exponent where that is very small, or greater than they reach. -/
def Binary.general (x : Binary) (l : Look) (count : Nat) : String :=
  let places := count - 1
  let digits := x.digits places
  if -4 ≤ digits.2 && digits.2 < Int.ofNat count then x.fixed l (Int.ofNat places - digits.2).toNat
  else exponential l places digits

/-- The text in base sixteen with a binary exponent, of a number that has so many places when it is written in
full, and then starts with a digit other than zero unless it is too small for that. -/
def Binary.hexadecimal (x : Binary) (l : Look) (full : Nat) (places : Option Nat) : String :=
  let shown := places.getD full
  let n := roundDiv (x.mantissa * Nat.pow 16 shown) (Nat.pow 16 full)
  let exponent := if x.mantissa == 0 then 0 else x.exponent + 4 * full
  let (n, exponent) := if n ≥ Nat.pow 16 (shown + 1) then (Nat.pow 16 shown, exponent + 4) else (n, exponent)
  let text := Nat.toDigits 16 n
  let text := List.replicate (shown + 1 - text.length) '0' ++ text
  let behind := text.drop 1
  let behind := if places.isNone then (behind.reverse.dropWhile (· == '0')).reverse else behind
  .ofList (text.take 1 ++ (if behind.isEmpty && !l.pointed then [] else '.' :: behind)) ++
    (if exponent < 0 then "p-" else "p+") ++ toString exponent.natAbs

end Galley.Decimal
