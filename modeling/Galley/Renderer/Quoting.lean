import Galley.Renderer.Job
import Galley.Renderer.Locale
import Galley.Text.Printable

/-! How programs show names and words in their complaints. A name appears so that a shell would read it as that
name: as it is, in single quotes, or in double quotes, with bytes that cannot be printed as escapes. A word appears
in the quotes of a text. -/
namespace Galley
namespace Tool

def isPrintable (b : UInt8) : Bool := 0x20 ≤ b && b < 0x7F

/-- A byte in three octal digits. -/
def octalOf (b : UInt8) : String := .ofList ([b.toNat / 64, b.toNat / 8 % 8, b.toNat % 8].map Nat.digitChar)

/-- An escape behind a backslash. -/
def escapeOf (b : UInt8) : String :=
  match [(7, "a"), (8, "b"), (9, "t"), (10, "n"), (11, "v"), (12, "f"), (13, "r")].lookup b.toNat with
  | some letter => letter
  | none => octalOf b

/-- Bytes as escapes. -/
def escaped (bytes : List UInt8) : String := String.join (bytes.map fun b => "\\" ++ escapeOf b)

/-- A character itself, or its bytes as escapes. -/
def shownOr (g : Text.Glyph) (instead : String) : String :=
  if g.isPrintable then (g.char.map Char.toString).getD "" else instead

/-- For a character whose meaning hangs on its place, whether it has it there: a brace has to stand alone, and other
marks at the start. -/
def isPlaced? (length place : Nat) (c : Char) : Option Bool :=
  if c == '\x7b' || c == '\x7d' then some (length == 1)
  else if c == '#' || c == '~' then some (place == 0)
  else none

/-- Characters that a shell may read in a way of its own, at a place in a name of some length. -/
def isSpecial (length place : Nat) (g : Text.Glyph) : Bool :=
  !g.isPrintable || g.char.any fun c =>
    (isPlaced? length place c).getD (" !\"$&()*;<=>[^\x60|'\\?".toList.contains c)

/-- Characters that mean the same in double quotes. -/
def isTame (length place : Nat) (g : Text.Glyph) : Bool :=
  g.isPrintable && g.char.any fun c =>
    c.toNat ≥ 0x80 || (isPlaced? length place c).getD (c.isAlphanum || " '%+,-./:]_".toList.contains c)

/-- The characters of a name inside single quotes. Those that cannot be printed stand in quotes of their own. -/
def singleQuoted (escaping : Bool) : List Text.Glyph → String
  | [] => "'"
  | g :: rest =>
    if g.isOf '\'' then "'\\''" ++ singleQuoted false rest
    else if g.isPrintable then (if escaping then "''" else "") ++ shownOr g "" ++ singleQuoted false rest
    else (if escaping then "" else "'$'") ++ escaped g.bytes ++ singleQuoted true rest

/-- Characters in quotes that make a shell read them as they are. -/
def quotedGlyphs (glyphs : List Text.Glyph) : String :=
  let n := glyphs.length
  let places := glyphs.zipIdx
  let shown := String.join (glyphs.map fun g => shownOr g "")
  if glyphs.any (·.isOf '\'') && places.all fun (g, i) => isTame n i g then "\"" ++ shown ++ "\""
  else "'" ++ singleQuoted false glyphs

/-- Characters that a shell would read as they are, perhaps in quotes. -/
def shellWord (glyphs : List Text.Glyph) : String :=
  let n := glyphs.length
  if n > 0 && glyphs.zipIdx.all fun (g, i) => !isSpecial n i g then String.join (glyphs.map fun g => shownOr g "")
  else quotedGlyphs glyphs

/-- A name as it appears in a complaint; `always` in quotes, or only where that is needed, as where a colon could be
taken for the one behind the name. -/
def quotedName (l : Locale) (always : Bool) (name : String) : String :=
  let glyphs := l.glyphs (bytesOf name)
  if always || name.contains ':' then quotedGlyphs glyphs else shellWord glyphs

/-- A word in the single quotes of a locale, in which backslashes stand before a closing quote, backslashes and
escapes. -/
def quotedWord (l : Locale) (bytes : List UInt8) : String :=
  let (opening, closing) := match l with
    | .plain => ('\'', '\'')
    | .utf8 => ('\u2018', '\u2019')
  opening.toString ++ String.join ((l.glyphs bytes).map fun g =>
    (if g.isOf closing || g.isOf '\\' then "\\" else "") ++ shownOr g (escaped g.bytes)) ++ closing.toString

end Tool

namespace Job

/-- The locale of a job. -/
def locale (j : Job) : Locale := .ofEnvironment j.environment

/-- A name in a complaint of a job. -/
def quotedName (j : Job) (always : Bool) (name : String) : String := Tool.quotedName j.locale always name

/-- A word in a complaint of a job. -/
def quotedWord (j : Job) (bytes : List UInt8) : String := Tool.quotedWord j.locale bytes

end Job
end Galley
