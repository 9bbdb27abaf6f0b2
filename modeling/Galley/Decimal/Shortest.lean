/-! Decimal text of a real number. Of the decimals that read back as the number, the text is one with the fewest
digits, and of those the nearest; of two that are equally near it is the larger. The text is always positional,
without an exponent.

A number is `mantissa * 2 ^ exponent`, and the reals that read back as it form an interval around it: upwards it
reaches half a step, downwards half a step or, above a power of two, a quarter. Its ends belong to it when the
mantissa is even. The search goes over the grids of multiples of `10 ^ k`, from coarse to fine, and stops at the
first that has a point in the interval; such a point can only be one of the two neighbours of the number. -/
namespace Galley.Decimal

/-- A number that is not negative. -/
structure Binary where
  mantissa : Nat
  exponent : Int
  /-- The step below the number is half the step above it. -/
  narrow : Bool
  deriving DecidableEq

/-- What the bits of a 64-bit real number stand for. -/
inductive Real where
  | notANumber
  | infinite (negative : Bool)
  | finite (negative : Bool) (magnitude : Binary)
  deriving DecidableEq

/-- Reads the fields: one bit of sign, eleven of exponent, fifty-two of fraction. -/
def Real.ofBits (bits : UInt64) : Real :=
  let negative := bits.toNat / Nat.pow 2 63 == 1
  let field : Nat := bits.toNat / Nat.pow 2 52 % Nat.pow 2 11
  let fraction : Nat := bits.toNat % Nat.pow 2 52
  if field == 2047 then if fraction == 0 then .infinite negative else .notANumber
  else if field == 0 then .finite negative { mantissa := fraction, exponent := -1074, narrow := false }
  else
    .finite negative
      { mantissa := Nat.pow 2 52 + fraction, exponent := (field : Int) - 1075, narrow := fraction == 0 }

namespace Binary

/-- The ends of the interval, and the number itself, in quarters of its step. -/
def low (x : Binary) : Nat := 4 * x.mantissa - (if x.narrow then 1 else 2)
def quarters (x : Binary) : Nat := 4 * x.mantissa
def high (x : Binary) : Nat := 4 * x.mantissa + 2

/-- `10 ^ k` and a quarter of the number's step, both as multiples of one common unit. -/
def gridStep (x : Binary) (k : Int) : Nat := Nat.pow 10 k.toNat * Nat.pow 2 (2 - x.exponent).toNat
def quarterStep (x : Binary) (k : Int) : Nat := Nat.pow 10 (-k).toNat * Nat.pow 2 (x.exponent - 2).toNat

/-- The decimal `c * 10 ^ k` reads back as the number. -/
def readsBack (x : Binary) (c : Nat) (k : Int) : Bool :=
  let point := c * x.gridStep k
  let low := x.low * x.quarterStep k
  let high := x.high * x.quarterStep k
  if x.mantissa % 2 == 0 then low ≤ point && point ≤ high else low < point && point < high

/-- The nearer of the number's neighbours on the grid of `10 ^ k` that read back, if one does. -/
def nearest? (x : Binary) (k : Int) : Option Nat :=
  let grid := x.gridStep k
  let value := x.quarters * x.quarterStep k
  let below := value / grid
  let above := below + 1
  match x.readsBack below k, x.readsBack above k with
  | true, true => some (if value - below * grid < above * grid - value then below else above)
  | true, false => some below
  | false, true => some above
  | false, false => none

/-- The exponent of the coarsest grid that can have a point in an interval, and how many grids there are from it
down to the one that every number lies on. -/
def coarsest : Int := 309
def grids : Nat := 1384

/-- The digits, as a number, and the exponent of ten of the shortest decimal. -/
def shortest (x : Binary) : Nat × Int :=
  let candidates := (List.range grids).findSome? fun (i : Nat) =>
    let k := coarsest - (i : Int)
    (x.nearest? k).map (·, k)
  candidates.getD (x.mantissa * Nat.pow 5 (-x.exponent).toNat, x.exponent)

end Binary

/-- The text of `digits * 10 ^ k`. -/
def positional (digits : Nat) (k : Int) : String :=
  let text := Nat.toDigits 10 digits
  let places := (-k).toNat
  if places == 0 then .ofList (text ++ List.replicate k.toNat '0')
  else
    let padded := List.replicate (places + 1 - text.length) '0' ++ text
    .ofList (padded.take (padded.length - places) ++ '.' :: padded.drop (padded.length - places))

/-- The text of a magnitude. -/
def Binary.text (x : Binary) : String :=
  if x.mantissa == 0 then "0"
  else
    let (digits, k) := x.shortest
    positional digits k

def sign (negative : Bool) : String := if negative then "-" else ""

/-- The text of a real number; what is not a number has no sign. -/
def Real.text : Real → String
  | notANumber => "NaN"
  | infinite negative => sign negative ++ "Infinity"
  | finite negative x => sign negative ++ x.text

end Galley.Decimal
