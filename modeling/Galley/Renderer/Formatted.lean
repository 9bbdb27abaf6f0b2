import Galley.Renderer.Conversion
import Galley.Renderer.Echo
import Galley.Renderer.Quoting

/-! The program that prints a format. It goes through the format again as long as that takes arguments. Complaints
stand in what is written where they arise; some are only warnings, and some end the program. -/
namespace Galley

/-- What has come of a format so far. Arguments are sequences of bytes, held as characters of the same numbers. -/
structure Formatted where
  job : Job
  /-- What has been written, the last first. -/
  written : List Written
  arguments : List String
  status : Nat
  /-- The program has ended. -/
  isEnded : Bool

namespace Formatted

def add (f : Formatted) (bytes : List UInt8) : Formatted :=
  match f.written with
  | .output before :: rest => { f with written := .output (bytes.foldl ByteArray.push before) :: rest }
  | rest => { f with written := .output bytes.toByteArray :: rest }

/-- The next argument, if there is one, and what is left. -/
def next (f : Formatted) : Option String × Formatted :=
  match f.arguments with
  | [] => (none, f)
  | a :: rest => (some a, { f with arguments := rest })

/-- A complaint that changes nothing. -/
def warn (f : Formatted) (message : String) : Formatted :=
  { f with written := f.job.complaint message :: f.written }

/-- A complaint that makes the program fail. -/
def complain (f : Formatted) (message : String) : Formatted := { f.warn message with status := 1 }

/-- A complaint that ends the program. -/
def abandon (f : Formatted) (message : String) : Formatted := { f.complain message with isEnded := true }

def quoted (f : Formatted) (argument : String) : String := f.job.quotedWord (Conversion.bytesOf argument)

/-! ## Escapes -/

/-- The bytes of the character with a number: itself, or its number where the locale has no such character. -/
def characterBytes (l : Locale) (n : Nat) : List UInt8 :=
  if n < 0x80 then [UInt8.ofNat n]
  else if l == .utf8 && n < 0x110000 then String.utf8EncodeChar (Char.ofNat n)
  else
    let ds := (Nat.toDigits 16 n).map Char.toUpper
    let (mark, size) := if n < 0x10000 then ('u', 4) else ('U', 8)
    Tool.bytesOf (.ofList ('\\' :: mark :: List.replicate (size - ds.length) '0' ++ ds))

/-- Digits of base sixteen, as many as there must be, for the number of a character. -/
def character (f : Formatted) (mark : Char) (size : Nat) (cs : List UInt8) : Formatted × List UInt8 :=
  let (n, rest) := Tool.digits 16 size 0 cs
  if cs.length < rest.length + size then (f.abandon "missing hexadecimal number in escape", rest)
  else if 0xD800 ≤ n && n ≤ 0xDFFF then
    let ds := Nat.toDigits 16 n
    let name := mark :: List.replicate (size - ds.length) '0' ++ ds
    (f.abandon ("invalid universal character name \\" ++ .ofList name), rest)
  else (f.add (characterBytes f.job.locale n), rest)

/-- Resolves the escape behind a backslash, and tells what follows it. An octal number has up to three digits; `zero`
says that another zero may stand in front. -/
def escape (f : Formatted) (zero : Bool) (cs : List UInt8) : Formatted × List UInt8 :=
  match cs with
  | [] => (f.add [0x5C], [])
  | b :: rest =>
    let c := Char.ofNat b.toNat
    if c == 'x' then
      let (value, left) := Tool.digits 16 2 0 rest
      if left.length == rest.length then (f.abandon "missing hexadecimal number in escape", rest)
      else (f.add [UInt8.ofNat value], left)
    else if '0' ≤ c && c ≤ '7' then
      let (value, left) := Tool.digits 8 3 0 (if zero && c == '0' then rest else cs)
      (f.add [UInt8.ofNat value], left)
    else if c == 'c' then ({ f with status := 0, isEnded := true }, rest)
    else if c == 'u' then f.character c 4 rest
    else if c == 'U' then f.character c 8 rest
    else
      match (('"', 0x22) :: ('e', 0x1B) :: Tool.letterEscapes).lookup c with
      | some byte => (f.add [byte], rest)
      | none => (f.add [0x5C, b], rest)

/-- Prints a text with its escapes resolved, over a fuel of at least its length. -/
def resolved (f : Formatted) : Nat → List UInt8 → Formatted
  | 0, _ => f
  | fuel + 1, cs =>
    if f.isEnded then f
    else
      match cs with
      | [] => f
      | 0x5C :: rest =>
        let (f, rest) := f.escape true rest
        f.resolved fuel rest
      | b :: rest => (f.add [b]).resolved fuel rest

/-! ## Conversions -/

/-- The code of the character behind a quote, and the bytes behind that. -/
def codeOf? (l : Locale) (argument : String) : Option (Nat × List UInt8) :=
  match Conversion.bytesOf argument with
  | q :: b :: rest =>
    if q == 0x22 || q == 0x27 then
      (l.glyphs (b :: rest)).head?.map fun g =>
        ((g.char.map Char.toNat).getD b.toNat, (b :: rest).drop g.bytes.length)
    else none
  | _ => none

/-- Reads an argument as a number, or as a code. -/
def read {α : Type} (f : Formatted) (argument : String) (ofCode : Nat → α)
    (ofText : String → Conversion.Operand α) : α × Formatted :=
  match codeOf? f.job.locale argument with
  | some (code, []) => (ofCode code, f)
  | some (code, rest) =>
    let ignored := Text.utf8Lossy rest.toByteArray
    (ofCode code, f.warn ("warning: " ++ ignored ++ ": character(s) following character constant have been ignored"))
  | none =>
    let o := ofText argument
    let wrong (cause : String) := f.complain (f.quoted argument ++ ": " ++ cause)
    let f := if o.isBeyond then wrong "Numerical result out of range"
      else if o.rest.isEmpty then f
      else wrong (if o.isNumber then "value not completely converted" else "expected a numeric value")
    (o.value, f)

/-- No width or precision is greater. -/
def maxCount : Nat := Nat.pow 2 31 - 1

/-- A number, or a star that stands for the next argument, and what follows it. -/
def countAt (f : Formatted) (name : String) (least : Int) (cs : List UInt8) :
    Option Int × Formatted × List UInt8 :=
  match cs with
  | 0x2A :: rest =>
    match f.next with
    | (none, f) => (some 0, f, rest)
    | (some argument, f) =>
      let (n, f) := f.read argument Int.ofNat Conversion.signedOf
      if n < least || maxCount < n then (none, f.abandon ("invalid " ++ name ++ ": " ++ f.quoted argument), rest)
      else (some n, f, rest)
  | cs =>
    let ds := cs.takeWhile fun b => 0x30 ≤ b && b ≤ 0x39
    let n := ds.foldl (fun n d => 10 * n + (d.toNat - 0x30)) 0
    (if ds.isEmpty then none else some (Int.ofNat n), f, cs.drop ds.length)

/-- A conversion goes together with its flags. -/
def isSound (c : Conversion) : Bool :=
  let among (letters : String) := letters.toList.contains c.letter
  let barred (flag : Char) (letters : String) := c.flags.contains flag && among letters
  among "aAcdeEfFgGiosuxX" && !barred '\'' "aAceEosxX" && !barred 'I' "aAceEosxX" && !barred '#' "cdisu" &&
    !barred '0' "cs"

/-- Shows the next argument. -/
def apply (f : Formatted) (c : Conversion) : Formatted :=
  let (given, f) := f.next
  let argument := given.getD ""
  let bytes := Conversion.bytesOf argument
  let shown (f : Formatted) (bytes : Unit → List UInt8) : Formatted :=
    if maxCount < c.width || (c.precision.any fun n => decide (maxCount < n)) then f.abandon "write error"
    else f.add (bytes ())
  if c.letter == 's' then shown f fun _ => c.text bytes
  else if c.letter == 'c' then shown f fun _ => c.text [bytes.headD 0]
  else if Conversion.reals.contains c.letter then
    let e := Decimal.Format.extended
    let ((isNegative, value), f) := f.read argument (fun code => (false, e.ofNat code)) (Conversion.realOf e)
    shown f fun _ => c.real e isNegative value
  else
    let (n, f) := f.read argument Int.ofNat (if c.isSigned then Conversion.signedOf else Conversion.unsignedOf)
    shown f fun _ => c.number n

/-- The conversion behind a percent sign, with what follows it. Letters for the size of a number mean nothing. -/
def conversion (f : Formatted) (cs : List UInt8) : Formatted × List UInt8 :=
  let flags := cs.takeWhile ("'I-+ #0".toUTF8.data.toList.contains ·)
  let (width, f, rest) := f.countAt "field width" (-Int.ofNat maxCount - 1) (cs.drop flags.length)
  if f.isEnded then (f, rest)
  else
    let (precision, f, rest) := match rest with
      | 0x2E :: rest =>
        let (n, f, rest) := f.countAt "precision" (-Int.ofNat (Nat.pow 2 63)) rest
        (some (n.getD 0), f, rest)
      | rest => (none, f, rest)
    if f.isEnded then (f, rest)
    else
      let behind := rest.dropWhile ("lLhjtz".toUTF8.data.toList.contains ·)
      let flags := flags.map fun b => Char.ofNat b.toNat
      let c : Conversion :=
        { flags := if width.getD 0 < 0 then '-' :: flags else flags, width := (width.getD 0).natAbs
          precision := (precision.filter fun n => decide (0 ≤ n)).map Int.toNat
          letter := (behind.head?.map fun b => Char.ofNat b.toNat).getD '\x00' }
      if isSound c && !(c.letter == 'c' && precision.isSome) then (f.apply c, behind.drop 1)
      else
        let directive := 0x25 :: cs.take (cs.length - behind.length + 1)
        (f.abandon (Text.utf8Lossy directive.toByteArray ++ ": invalid conversion specification"), behind)

/-- What stands behind a percent sign, and what follows it. -/
def directive (f : Formatted) (cs : List UInt8) : Formatted × List UInt8 :=
  match cs with
  | 0x25 :: rest => (f.add [0x25], rest)
  | 0x62 :: rest =>
    let (given, f) := f.next
    let bytes := Conversion.bytesOf (given.getD "")
    (f.resolved (bytes.length + 1) bytes, rest)
  | 0x71 :: rest =>
    match f.next with
    | (none, f) => (f, rest)
    | (some a, f) => (f.add (Tool.bytesOf (Tool.shellWord (f.job.locale.glyphs (Conversion.bytesOf a)))), rest)
  | cs => f.conversion cs

/-- Goes through a format once, over a fuel of at least its length. -/
def once (f : Formatted) : Nat → List UInt8 → Formatted
  | 0, _ => f
  | fuel + 1, cs =>
    if f.isEnded then f
    else
      match cs with
      | [] => f
      | 0x25 :: rest =>
        let (f, rest) := f.directive rest
        f.once fuel rest
      | 0x5C :: rest =>
        let (f, rest) := f.escape false rest
        f.once fuel rest
      | b :: rest => (f.add [b]).once fuel rest

/-- Goes through a format as long as it takes arguments. What is left then is warned of. -/
def all (format : List UInt8) : Nat → Formatted → Formatted
  | 0, f => f
  | fuel + 1, f =>
    let after := f.once (format.length + 1) format
    if after.isEnded then after
    else
      match after.arguments with
      | [] => after
      | a :: _ =>
        if after.arguments.length == f.arguments.length then
          after.warn ("warning: ignoring excess arguments, starting with " ++ after.quoted a)
        else after.all format fuel

end Formatted

/-- Prints a format with arguments in it. -/
def Tool.printf : Tool := fun j =>
  match (if j.arguments.head? == some "--" then j.arguments.drop 1 else j.arguments) with
  | [] => j.misused "missing operand"
  | format :: operands =>
    let arguments := operands.map fun a => Text.latin1 a.toUTF8
    let start : Formatted := { job := j, written := [], arguments, status := 0, isEnded := false }
    let f := Formatted.all (Tool.bytesOf format) (arguments.length + 1) start
    { j.exits f.status with written := f.written.reverse }

end Galley
