import Galley.Renderer.Job

/-! Texts with backslash escapes, and the program that prints its arguments. -/
namespace Galley
namespace Tool

/-- Up to `n` digits of a base: their value, and what follows them. -/
def digits (base : Nat) (n value : Nat) (cs : List UInt8) : Nat × List UInt8 :=
  match n, cs with
  | n + 1, b :: rest =>
    let c := Char.ofNat b.toNat
    let d := if c.isDigit then b.toNat - 0x30 else if 'a' ≤ c && c ≤ 'f' then b.toNat - 0x57
      else if 'A' ≤ c && c ≤ 'F' then b.toNat - 0x37 else base
    if d < base then digits base n (base * value + d) rest else (value, b :: rest)
  | _, cs => (value, cs)

/-- The bytes that letters behind a backslash stand for. -/
def letterEscapes : List (Char × UInt8) :=
  [('\\', 0x5C), ('a', 7), ('b', 8), ('f', 12), ('n', 10), ('r', 13), ('t', 9), ('v', 11)]

/-- Which escapes a text knows besides letters, the escape character and octal numbers. -/
structure Escapes where
  /-- The number of octal digits behind a leading zero. -/
  afterZero : Nat
  /-- Hexadecimal digits behind `x`. -/
  hexadecimal : Bool
  /-- The letter `c` ends the text. -/
  cuts : Bool

/-- The escapes of arguments, of those that the shell prints, and of formats. -/
def Escapes.wide : Escapes := { afterZero := 3, hexadecimal := true, cuts := true }
def Escapes.plain : Escapes := { afterZero := 3, hexadecimal := false, cuts := true }
def Escapes.format : Escapes := { afterZero := 2, hexadecimal := false, cuts := false }

/-- The bytes of a text with its backslash escapes resolved, and whether one of them cut it off. -/
def unescape (kind : Escapes) : Nat → List UInt8 → List UInt8 × Bool
  | 0, _ => ([], false)
  | _ + 1, [] => ([], false)
  | fuel + 1, 0x5C :: b :: rest =>
    let c := Char.ofNat b.toNat
    let continued (front : List UInt8) (rest : List UInt8) :=
      let (bytes, isCut) := unescape kind fuel rest
      (front ++ bytes, isCut)
    if kind.cuts && c == 'c' then ([], true)
    else if c == '0' then
      let (value, rest) := digits 8 kind.afterZero 0 rest
      continued [UInt8.ofNat value] rest
    else if '1' ≤ c && c ≤ '7' then
      let (value, rest) := digits 8 3 0 (b :: rest)
      continued [UInt8.ofNat value] rest
    else if c == 'e' then continued [0x1B] rest
    else if kind.hexadecimal && c == 'x' then
      let (value, left) := digits 16 2 0 rest
      if left.length == rest.length then continued [0x5C, b] rest else continued [UInt8.ofNat value] left
    else
      match letterEscapes.lookup c with
      | some byte => continued [byte] rest
      | none => continued [0x5C, b] rest
  | fuel + 1, b :: rest =>
    let (bytes, isCut) := unescape kind fuel rest
    (b :: bytes, isCut)

/-- A text resolved from its start. -/
def resolve (kind : Escapes) (bytes : List UInt8) : List UInt8 × Bool := unescape kind (bytes.length + 1) bytes

/-- The options of `echo` at the front of its arguments. -/
def echoOptions : List String → List Char × List String
  | [] => ([], [])
  | a :: rest =>
    match a.toList with
    | '-' :: c :: cs =>
      if (c :: cs).all ['n', 'e', 'E'].contains then
        let (letters, operands) := echoOptions rest
        (c :: cs ++ letters, operands)
      else ([], a :: rest)
    | _ => ([], a :: rest)

/-- Prints its arguments with a space between them. -/
def echo : Tool := fun j =>
  let (letters, operands) := echoOptions j.arguments
  let text := String.intercalate " " operands
  let resolves := (letters.reverse.find? (· != 'n')) == some 'e'
  let (bytes, isCut) := if resolves then resolve .wide (bytesOf text) else (bytesOf text, false)
  let ending : List UInt8 := if isCut || letters.contains 'n' then [] else [0x0A]
  j.prints (bytes ++ ending).toByteArray

end Tool
end Galley
