import Galley.Renderer.Conversion
import Galley.Renderer.Echo

/-! Formats of the shell: bytes with conversions in them. Formats and arguments are sequences of bytes, held as
characters of the same numbers. -/
namespace Galley

/-- What a format has made so far of its arguments. -/
structure Printing where
  out : ByteArray
  arguments : List String
  /-- The complaints about arguments that are not the numbers they should be. -/
  complaints : List String
  /-- The format itself goes wrong here, or printing was ended. -/
  stopped : Option (Option String)

namespace Printing

/-- The next argument, if there is one, and what is left. -/
def next (p : Printing) : String × Printing :=
  match p.arguments with
  | [] => ("", p)
  | a :: rest => (a, { p with arguments := rest })

def add (p : Printing) (bytes : List UInt8) : Printing := { p with out := bytes.foldl ByteArray.push p.out }

/-- The code of a character that stands behind a quote. -/
def codeOf? (argument : String) : Option Nat :=
  match argument.toList with
  | q :: rest => if q == '"' || q == '\'' then some ((rest.head?.map Char.toNat).getD 0) else none
  | [] => none

/-- The complaint about an argument as a number. An empty one stands for zero. -/
def complaintOf {α : Type} (argument : String) (o : Conversion.Operand α) : Option String :=
  if o.rest.isEmpty then if o.isBeyond then some (argument ++ ": Numerical result out of range") else none
  else some (argument ++ (if o.isNumber then ": not completely converted" else ": expected numeric value"))

/-- Reads an argument as a number, or as a code, and keeps the complaint about it. -/
def read {α : Type} (p : Printing) (argument : String) (ofCode : Nat → α)
    (ofText : String → Conversion.Operand α) : α × Printing :=
  match codeOf? argument with
  | some code => (ofCode code, p)
  | none =>
    let o := ofText argument
    (o.value, { p with complaints := p.complaints ++ (complaintOf argument o).toList })

end Printing

namespace Conversion

/-- Shows the next argument. -/
def apply (c : Conversion) (p : Printing) : Printing :=
  let (argument, p) := p.next
  match c.letter with
  | 's' => p.add (c.text (bytesOf argument))
  | 'c' => p.add (c.text [((bytesOf argument).head?).getD 0])
  | 'b' =>
    let (bytes, isCut) := Tool.resolve .plain (bytesOf argument)
    let p := p.add (c.text bytes)
    if isCut then { p with stopped := some none } else p
  | letter =>
    if reals.contains letter then
      let f := Decimal.Format.double
      let ((isNegative, value), p) := p.read argument (fun code => (false, f.ofNat code)) (realOf f)
      p.add (c.real f isNegative value)
    else
      let (n, p) := p.read argument Int.ofNat (if c.isSigned then signedOf else unsignedOf)
      p.add (c.number n)

end Conversion

/-- A number or a star behind a percent sign, and what follows it. -/
def countAt (p : Printing) (cs : List UInt8) : Option Int × Printing × List UInt8 :=
  match cs with
  | 0x2A :: rest =>
    let (argument, p) := p.next
    let (n, p) := p.read argument Int.ofNat Conversion.signedOf
    (some n, p, rest)
  | cs =>
    let ds := cs.takeWhile fun b => 0x30 ≤ b && b ≤ 0x39
    let n := ds.foldl (fun n d => 10 * n + (d.toNat - 0x30)) 0
    (if ds.isEmpty then none else some (Int.ofNat n), p, cs.drop ds.length)

/-- The conversion behind a percent sign, what came of finding it, and what follows it. -/
def conversionAt (p : Printing) (cs : List UInt8) : Except String (Conversion × Printing × List UInt8) :=
  let flags := cs.takeWhile [0x2D, 0x30, 0x2B, 0x20, 0x23].contains
  let (width, p, rest) := countAt p (cs.drop flags.length)
  let (precision, p, rest) := match rest with
    | 0x2E :: rest =>
      let (n, p, rest) := countAt p rest
      (some (n.getD 0), p, rest)
    | rest => (none, p, rest)
  let flags := flags.map fun b => Char.ofNat b.toNat
  let flags := if (width.getD 0) < 0 then '-' :: flags else flags
  match rest with
  | [] => .error "missing format character"
  | letter :: after =>
    let c : Conversion := { flags, width := (width.getD 0).natAbs, letter := Char.ofNat letter.toNat
                            precision := (precision.filter fun n => decide (0 ≤ n)).map Int.toNat }
    if "diouxXcsbaAeEfFgG".toList.contains c.letter then .ok (c, p, after)
    else
      let directive := cs.take (cs.length - after.length)
      .error ("%" ++ .ofList (directive.map fun b => Char.ofNat b.toNat) ++ ": invalid directive")

/-- Goes through a format once. -/
def Printing.once (p : Printing) : Nat → List UInt8 → Printing
  | 0, _ => p
  | fuel + 1, format =>
    if p.stopped.isSome then p
    else
      match format with
      | [] => p
      | 0x25 :: 0x25 :: rest => (p.add [0x25]).once fuel rest
      | 0x25 :: rest =>
        match conversionAt p rest with
        | .error message => { p with stopped := some (some message) }
        | .ok (c, p, rest) => (c.apply p).once fuel rest
      | 0x5C :: b :: rest =>
        let octal := (b :: rest).take 3 |>.takeWhile fun d => 0x30 ≤ d && d ≤ 0x37
        if octal.isEmpty then (p.add (Tool.unescape .format 3 [0x5C, b]).1).once fuel rest
        else
          let value := octal.foldl (fun n d => 8 * n + (d.toNat - 0x30)) 0
          (p.add [UInt8.ofNat value]).once fuel ((b :: rest).drop octal.length)
      | b :: rest => (p.add [b]).once fuel rest

/-- Goes through a format again as long as it takes arguments. -/
def Printing.all (format : List UInt8) : Nat → Printing → Printing
  | 0, p => p
  | fuel + 1, p =>
    let after := p.once (format.length + 1) format
    if after.stopped.isSome || after.arguments.isEmpty || after.arguments.length == p.arguments.length then after
    else after.all format fuel

/-- What a format makes of arguments. -/
def Printing.ofFormat (format : String) (arguments : List String) : Printing :=
  let start : Printing := { out := .empty, arguments, complaints := [], stopped := none }
  Printing.all (Conversion.bytesOf format) (arguments.length + 1) start

end Galley
