/-! UTF-8 as the library reads it: strictly, where ill-formed bytes are a failure, which can tell where they are,
and leniently, where each maximal ill-formed run becomes one replacement character (what a terminal would show of a
program's standard error). A further operation cuts a text after a number of *bytes*, which may fall inside a
character. -/
namespace Galley.Text

/-- The text a byte array encodes, if it is well-formed UTF-8. -/
def utf8? (bytes : ByteArray) : Option String := String.fromUTF8? bytes

/-- The first `n` bytes of `s` as a text (all of it when it is shorter); `none` when the cut falls inside a
character. -/
def bytePrefix? (n : Nat) (s : String) : Option String := utf8? (s.toUTF8.extract 0 n)

/-- A continuation byte, `80` to `BF`. -/
def isTail (b : UInt8) : Bool := 0x80 ≤ b && b ≤ 0xBF

/-- What a leading byte promises: how many continuation bytes follow and the range of the first of them
(which excludes overlong forms, surrogates and numbers above `10FFFF`). `none` for a byte that cannot lead. -/
def leading (b : UInt8) : Option (Nat × UInt8 × UInt8) :=
  if b < 0x80 then some (0, 0x80, 0xBF)
  else if 0xC2 ≤ b && b ≤ 0xDF then some (1, 0x80, 0xBF)
  else if b == 0xE0 then some (2, 0xA0, 0xBF)
  else if b == 0xED then some (2, 0x80, 0x9F)
  else if 0xE1 ≤ b && b ≤ 0xEF then some (2, 0x80, 0xBF)
  else if b == 0xF0 then some (3, 0x90, 0xBF)
  else if 0xF1 ≤ b && b ≤ 0xF3 then some (3, 0x80, 0xBF)
  else if b == 0xF4 then some (3, 0x80, 0x8F)
  else none

/-- The continuation bytes at the front of `bs` that fit, at most `n` of them. -/
def tails (n : Nat) (bs : List UInt8) : List UInt8 := (bs.take n).takeWhile isTail

/-- How many bytes the first character of `b :: rest` takes, and whether it is complete. -/
def charSpan (b : UInt8) (rest : List UInt8) : Nat × Bool :=
  match leading b with
  | none => (1, false)
  | some (0, _, _) => (1, true)
  | some (n + 1, lo, hi) =>
    match rest with
    | [] => (1, false)
    | second :: more =>
      if lo ≤ second && second ≤ hi then
        let got := (tails n more).length
        (2 + got, got == n)
      else (1, false)

/-- A character with its bytes, or a byte that belongs to none. -/
structure Glyph where
  char : Option Char
  bytes : List UInt8

/-- The characters of bytes, over a fuel of at least their number. -/
def glyphsFrom : Nat → List UInt8 → List Glyph
  | 0, _ => []
  | _ + 1, [] => []
  | fuel + 1, b :: rest =>
    let (n, complete) := charSpan b rest
    let bytes := (b :: rest).take n
    if b < 0x80 then { char := some (Char.ofNat b.toNat), bytes := [b] } :: glyphsFrom fuel rest
    else if complete then
      { char := (utf8? bytes.toByteArray).bind (·.toList.head?), bytes } :: glyphsFrom fuel ((b :: rest).drop n)
    else { char := none, bytes := [b] } :: glyphsFrom fuel rest

/-- The characters of bytes. -/
def glyphs (bytes : List UInt8) : List Glyph := glyphsFrom bytes.length bytes

/-- Lenient decoding, structurally over a fuel of at least the number of bytes. -/
def lossyFrom : Nat → List UInt8 → List UInt8
  | 0, _ => []
  | _ + 1, [] => []
  | fuel + 1, b :: rest =>
    let (n, complete) := charSpan b rest
    let here := if complete then (b :: rest).take n else String.utf8EncodeChar '\uFFFD'
    here ++ lossyFrom fuel ((b :: rest).drop n)

/-- The text of `bytes`, each maximal ill-formed part read as U+FFFD. -/
def utf8Lossy (bytes : ByteArray) : String :=
  match utf8? bytes with
  | some s => s
  | none => (utf8? (lossyFrom bytes.size bytes.data.toList).toByteArray).getD ""

/-- Where bytes stop being UTF-8. -/
structure Flaw where
  index : Nat
  /-- How many bytes the ill-formed run has; none if the bytes end inside a character. -/
  length : Option Nat
  deriving DecidableEq

def Flaw.message (f : Flaw) : String :=
  match f.length with
  | some n => "invalid utf-8 sequence of " ++ toString n ++ " bytes from index " ++ toString f.index
  | none => "incomplete utf-8 byte sequence from index " ++ toString f.index

/-- The first flaw of bytes that start at an index, over a fuel of at least their number. -/
def flawFrom (index : Nat) : Nat → List UInt8 → Option Flaw
  | 0, _ => none
  | _ + 1, [] => none
  | fuel + 1, b :: rest =>
    let (n, complete) := charSpan b rest
    if complete then flawFrom (index + n) fuel ((b :: rest).drop n)
    else
      let isCut := (leading b).isSome && n == rest.length + 1
      some { index, length := if isCut then none else some n }

/-- The text that bytes encode, or where they are flawed. -/
def decode (bytes : ByteArray) : Except Flaw String :=
  match utf8? bytes with
  | some s => .ok s
  | none => .error ((flawFrom 0 bytes.size bytes.data.toList).getD { index := bytes.size, length := none })

end Galley.Text
