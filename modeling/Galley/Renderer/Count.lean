import Galley.Renderer.Copy
import Galley.Text.Blank
import Galley.Text.Columns

/-! The program that counts lines, words and bytes. -/
namespace Galley
namespace Tool

/-- White space of any script, at which words end. The blanks that keep words on one line end them too, but what
only separates lines or paragraphs and is not of ASCII does not. -/
def separatesWords (c : Char) : Bool :=
  !([0x85, 0x2028, 0x2029].contains c.toNat) && (Text.isBlank c || c.toNat == 0x2060)

/-- How many words there are. What cannot be printed neither makes a word nor ends one. -/
def countWords (glyphs : List Text.Glyph) : Nat :=
  (glyphs.foldl (fun (n, inside) g =>
    if g.char.any separatesWords then (n, false)
    else if g.isPrintable then (if inside then n else n + 1, true)
    else (n, inside)) ((0, false) : Nat × Bool)).1

/-- The width of the widest line. A tab leads to the next multiple of eight. -/
def widest (glyphs : List Text.Glyph) : Nat :=
  let (most, last) := glyphs.foldl (fun (most, column) g =>
    if g.isOf '\n' || g.isOf '\r' || g.isOf '\x0c' then (max most column, 0)
    else if g.isOf '\t' then (most, 8 * (column / 8 + 1))
    else (most, column + (g.char.map Text.columns).getD 0)) ((0, 0) : Nat × Nat)
  max most last

/-- What is counted. -/
structure Counts where
  lines : Nat
  words : Nat
  characters : Nat
  bytes : Nat
  width : Nat

def Counts.zero : Counts := { lines := 0, words := 0, characters := 0, bytes := 0, width := 0 }

/-- The counts of bytes. A character is a byte where there are no others. -/
def Counts.ofBytes (l : Locale) (bytes : ByteArray) : Counts :=
  let glyphs := l.glyphs bytes.data.toList
  { lines := countBytes (· == 0x0A) bytes, words := countWords glyphs, bytes := bytes.size, width := widest glyphs
    characters := match l with
      | .plain => bytes.size
      | .utf8 => glyphs.countP (·.char.isSome) }

/-- The counts of two files together; their width is that of the wider one. -/
def Counts.add (a b : Counts) : Counts :=
  { lines := a.lines + b.lines, words := a.words + b.words, characters := a.characters + b.characters
    bytes := a.bytes + b.bytes, width := max a.width b.width }

def wcChoices : List Choice :=
  [{ letter := 'c', name := "bytes" }, { letter := 'm', name := "chars" }, { letter := 'l', name := "lines" },
    { letter := 'w', name := "words" }, { letter := 'L', name := "max-line-length" }]

/-- The columns, in the order that they are shown in. -/
def Counts.columns (c : Counts) : List (Char × Nat) :=
  [('l', c.lines), ('w', c.words), ('m', c.characters), ('c', c.bytes), ('L', c.width)]

/-- Counts lines, words and bytes of each file and of all together. The columns are as wide as the number of all
bytes needs; where something other than a file is read, whose size is not known before, they have seven places. -/
def wc : Tool := fun j =>
  let chosen := choices wcChoices j.arguments
  match chosen.rest with
  | .error message => j.misused message
  | .ok operands =>
    let letters := if chosen.given.isEmpty then ['l', 'w', 'c'] else chosen.given.map (·.1)
    let files := if operands.isEmpty then ["-"] else operands
    let failed (file : String) (e : IoError) : List (Job.Finding (String × Counts)) :=
      let name := if j.namesInput file then j.quotedName true "standard input" else j.quotedName false file
      let complaint := if file.isEmpty then "invalid zero-length file name" else name ++ ": " ++ Job.wording e
      .complaint (j.complaint complaint) ::
        if e == .isDirectory || e == .badStream then [.result (file, Counts.zero)] else []
    let r := j.overFiles files failed (fun _ => .empty) fun file bytes => (file, Counts.ofBytes j.locale bytes)
    let total := r.results.foldl (fun sum (_, c) => sum.add c) .zero
    let shown (c : Counts) := (c.columns.filter fun (l, _) => letters.contains l).map (·.2)
    let isPlain := files.length == 1 && (shown total).length == 1
    let isFile (file : String) : Bool :=
      if j.namesInput file then j.inputKind != .pipe
      else match j.disk.find file with
        | .ok (.directory _) | .ok (.device _) => false
        | _ => true
    let least := if files.all isFile then 1 else 7
    let places := if isPlain then 1 else max least (toString total.bytes).length
    let line (label : String) (c : Counts) :=
      String.intercalate " " ((shown c).map (padded places)) ++ (if label.isEmpty then "" else " " ++ label) ++ "\n"
    let sum := if files.length > 1 then [Written.output (line "total" total).toUTF8] else []
    let rows := r.written fun _ (file, c) => (line (if operands.isEmpty then "" else file) c).toUTF8
    j.ends (rows ++ sum ++ j.closing files "-") r.input

end Tool
end Galley
