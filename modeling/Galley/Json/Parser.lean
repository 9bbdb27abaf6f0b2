import Galley.Json.Basic

/-! The grammar of JSON over bytes: what a document is, with nothing said about how its leaves are read. A reader
takes a front of the input and returns the rest. Nesting is not limited. -/
namespace Galley.Json

/-- The input without the white space at its front. -/
def skipSpace (s : List UInt8) : List UInt8 :=
  s.dropWhile fun b => b == 0x20 || b == 0x0A || b == 0x0D || b == 0x09

def isHexDigit (b : UInt8) : Bool := (Text.hexValue? (Char.ofNat b.toNat)).isSome

/-- The bytes up to the closing quote, and what follows the quote. Control characters may not stand in a literal,
and a backslash must start one of JSON's escapes. -/
def stringBody : List UInt8 → Option (List UInt8 × List UInt8)
  | [] => none
  | 0x22 :: rest => some ([], rest)
  | 0x5C :: 0x75 :: a :: b :: c :: d :: rest =>
    if isHexDigit a && isHexDigit b && isHexDigit c && isHexDigit d then
      (stringBody rest).map fun (body, rest) => (0x5C :: 0x75 :: a :: b :: c :: d :: body, rest)
    else none
  | 0x5C :: b :: rest =>
    if b == 0x22 || b == 0x5C || b == 0x2F || b == 0x62 || b == 0x66 || b == 0x6E || b == 0x72 || b == 0x74 then
      (stringBody rest).map fun (body, rest) => (0x5C :: b :: body, rest)
    else none
  | b :: rest =>
    if b < 0x20 || b == 0x5C then none
    else (stringBody rest).map fun (body, rest) => (b :: body, rest)

def isDigit (b : UInt8) : Bool := 0x30 ≤ b && b ≤ 0x39

/-- The digits at the front of the input, and the rest. -/
def digitRun (s : List UInt8) : List Nat × List UInt8 :=
  ((s.takeWhile isDigit).map fun b => b.toNat - 48, s.dropWhile isDigit)

/-- The fraction: a point and at least one digit, or nothing. -/
def fraction (s : List UInt8) : Option (Option (List Nat) × List UInt8) :=
  match s with
  | 0x2E :: rest =>
    match digitRun rest with
    | ([], _) => none
    | (digits, rest) => some (some digits, rest)
  | _ => some (none, s)

/-- The exponent: the letter, a sign if any, and at least one digit, or nothing. -/
def exponent (s : List UInt8) : Option (Option (Bool × List Nat) × List UInt8) :=
  match s with
  | b :: rest =>
    if b == 0x65 || b == 0x45 then
      let (negative, rest) : Bool × List UInt8 :=
        match rest with
        | 0x2B :: rest => (false, rest)
        | 0x2D :: rest => (true, rest)
        | _ => (false, rest)
      match digitRun rest with
      | ([], _) => none
      | (digits, rest) => some (some (negative, digits), rest)
    else some (none, s)
  | [] => some (none, s)

/-- A number, its sign already taken. A zero in front of other digits is refused. -/
def unsigned (negative : Bool) (s : List UInt8) : Option (Json × List UInt8) := do
  let (whole, rest) := digitRun s
  if whole.isEmpty || (whole.head? == some 0 && whole.length > 1) then none
  else
    let (fraction, rest) ← fraction rest
    let (exponent, rest) ← exponent rest
    some (.number
      { negative, whole, fraction := fraction.getD [], exponent,
        isWhole := fraction.isNone && exponent.isNone }, rest)

mutual
/-- A value at the front of the input, white space before it allowed. -/
def value : Nat → List UInt8 → Option (Json × List UInt8)
  | 0, _ => none
  | fuel + 1, s =>
    match skipSpace s with
    | 0x6E :: 0x75 :: 0x6C :: 0x6C :: rest => some (.null, rest)
    | 0x74 :: 0x72 :: 0x75 :: 0x65 :: rest => some (.bool true, rest)
    | 0x66 :: 0x61 :: 0x6C :: 0x73 :: 0x65 :: rest => some (.bool false, rest)
    | 0x22 :: rest => (stringBody rest).map fun (body, rest) => (.string ⟨body⟩, rest)
    | 0x2D :: rest => unsigned true rest
    | 0x5B :: rest =>
      match skipSpace rest with
      | 0x5D :: rest => some (.array [], rest)
      | _ => (items fuel rest).map fun (vs, rest) => (.array vs, rest)
    | 0x7B :: rest =>
      match skipSpace rest with
      | 0x7D :: rest => some (.object [], rest)
      | _ => (members fuel rest).map fun (ms, rest) => (.object ms, rest)
    | s => unsigned false s

/-- The items of an array up to its bracket, at least one. -/
def items : Nat → List UInt8 → Option (List Json × List UInt8)
  | 0, _ => none
  | fuel + 1, s => do
    let (v, rest) ← value fuel s
    match skipSpace rest with
    | 0x2C :: rest => (items fuel rest).map fun (vs, rest) => (v :: vs, rest)
    | 0x5D :: rest => some ([v], rest)
    | _ => none

/-- The members of an object up to its brace, at least one. -/
def members : Nat → List UInt8 → Option (List (Literal × Json) × List UInt8)
  | 0, _ => none
  | fuel + 1, s =>
    match skipSpace s with
    | 0x22 :: rest => do
      let (name, rest) ← stringBody rest
      match skipSpace rest with
      | 0x3A :: rest =>
        let (v, rest) ← value fuel rest
        match skipSpace rest with
        | 0x2C :: rest => (members fuel rest).map fun (ms, rest) => ((⟨name⟩, v) :: ms, rest)
        | 0x7D :: rest => some ([(⟨name⟩, v)], rest)
        | _ => none
      | _ => none
    | _ => none
end

/-- The value a document holds: one value, with nothing but white space around it. -/
def parse (s : List UInt8) : Option Json := do
  let (v, rest) ← value (2 * s.length + 2) s
  if (skipSpace rest).isEmpty then some v else none

/-- The value a byte array holds. -/
def ofBytes? (bytes : ByteArray) : Option Json := parse bytes.data.toList

end Galley.Json
