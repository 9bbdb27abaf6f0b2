import Galley.Json.Basic

/-! String literals and the texts they stand for. Writing escapes the quote, the backslash and the control
characters and nothing else. Reading resolves every escape; a surrogate must come as a pair of `\u` escapes. -/
namespace Galley.Literal
open Text

/-- The ASCII byte of a character. -/
def ascii (c : Char) : UInt8 := UInt8.ofNat c.toNat

/-- How a character is written: two-byte escapes where JSON has them, `\u00xx` for other control characters,
UTF-8 for the rest. -/
def escapeChar (c : Char) : List UInt8 :=
  if c == '"' then [0x5C, 0x22]
  else if c == '\\' then [0x5C, 0x5C]
  else if c == '\n' then [0x5C, 0x6E]
  else if c == '\r' then [0x5C, 0x72]
  else if c == '\t' then [0x5C, 0x74]
  else if c == '\x08' then [0x5C, 0x62]
  else if c == '\x0c' then [0x5C, 0x66]
  else if c.toNat < 0x20 then [0x5C, 0x75, 0x30, 0x30] ++ (hexByte (UInt8.ofNat c.toNat)).map ascii
  else String.utf8EncodeChar c

/-- The literal that stands for a text. -/
def ofString (s : String) : Literal := ⟨s.toList.flatMap escapeChar⟩

/-- The value of four hexadecimal digits. -/
def unit? (a b c d : UInt8) : Option Nat :=
  hexNumber? ([a, b, c, d].map latin1)
where
  latin1 (b : UInt8) : Char := Char.ofNat b.toNat

/-- The byte a two-byte escape stands for. -/
def shortEscape? (b : UInt8) : Option UInt8 :=
  if b == 0x22 || b == 0x5C || b == 0x2F then some b
  else if b == 0x62 then some 0x08
  else if b == 0x66 then some 0x0C
  else if b == 0x6E then some 0x0A
  else if b == 0x72 then some 0x0D
  else if b == 0x74 then some 0x09
  else none

/-- The escapes of a body resolved, giving the bytes of the text. A `\u` escape in the surrogate range is
accepted only as a leading one directly followed by a trailing one. -/
def resolve : List UInt8 → Option (List UInt8)
  | [] => some []
  | 0x5C :: 0x75 :: a :: b :: c :: d :: rest => do
    let high ← unit? a b c d
    if 0xDC00 ≤ high && high ≤ 0xDFFF then none
    else if 0xD800 ≤ high && high ≤ 0xDBFF then
      match rest with
      | 0x5C :: 0x75 :: e :: f :: g :: h :: more =>
        let low ← unit? e f g h
        if 0xDC00 ≤ low && low ≤ 0xDFFF then
          let bytes ← resolve more
          some (String.utf8EncodeChar (Char.ofNat (0x10000 + (high - 0xD800) * 0x400 + (low - 0xDC00))) ++ bytes)
        else none
      | _ => none
    else
      let bytes ← resolve rest
      some (String.utf8EncodeChar (Char.ofNat high) ++ bytes)
  | 0x5C :: b :: rest => do
    let byte ← shortEscape? b
    let bytes ← resolve rest
    some (byte :: bytes)
  | b :: rest => do
    let bytes ← resolve rest
    some (b :: bytes)

/-- The text a literal stands for. -/
def text? (l : Literal) : Option String := do
  let bytes ← resolve l.body
  utf8? bytes.toByteArray

end Galley.Literal

namespace Galley.Json

/-- A text as a JSON string. -/
def text (s : String) : Json := string (.ofString s)

/-- An object from named members. -/
def record (members : List (String × Json)) : Json :=
  object (members.map fun m => (.ofString m.1, m.2))

end Galley.Json
