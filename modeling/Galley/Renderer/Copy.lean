import Galley.Renderer.Choice
import Galley.Renderer.Quoting

/-! The programs that copy their files: whole, perhaps with marks that make bytes visible, or only the front. -/
namespace Galley
namespace Tool

def catChoices : List Choice :=
  [{ letter := 'b', name := "number-nonblank" }, { letter := 'n', name := "number" },
    { letter := 's', name := "squeeze-blank" }, { letter := 'v', name := "show-nonprinting" },
    { letter := 'E', name := "show-ends" }, { letter := 'T', name := "show-tabs" },
    { letter := 'A', name := "show-all" }, { letter := 'e' }, { letter := 't' }, { letter := 'u' }]

/-- What a copy makes visible. -/
structure Marks where
  numbersAll : Bool
  numbersFull : Bool
  squeezes : Bool
  bytes : Bool
  ends : Bool
  tabs : Bool

def Marks.ofChosen (c : Chosen) : Marks :=
  { numbersFull := c.has 'b', numbersAll := c.has 'n' && !c.has 'b', squeezes := c.has 's'
    bytes := c.has 'v' || c.has 'A' || c.has 'e' || c.has 't'
    ends := c.has 'E' || c.has 'A' || c.has 'e'
    tabs := c.has 'T' || c.has 'A' || c.has 't' }

/-- There is nothing to make visible. -/
def Marks.isPlain (m : Marks) : Bool :=
  !(m.numbersAll || m.numbersFull || m.squeezes || m.bytes || m.ends || m.tabs)

/-- A byte under the letter that it makes with the control key. -/
def caret (b : UInt8) : List UInt8 := [0x5E, b ^^^ 0x40]

/-- A byte other than a line feed, with another behind it perhaps. -/
def Marks.show (m : Marks) (b : UInt8) (next : Option UInt8) : List UInt8 :=
  if b == 0x09 then if m.tabs then caret b else [b]
  else if m.bytes then
    let low := b &&& 0x7F
    (if b ≥ 0x80 then [0x4D, 0x2D] else []) ++ (if low < 0x20 || low == 0x7F then caret low else [low])
  else if m.ends && b == 0x0D && next == some 0x0A then caret b
  else [b]

/-- A number at the right of some places. -/
def padded (places n : Nat) : String :=
  let s := toString n
  String.ofList (List.replicate (places - s.length) ' ') ++ s

/-- Shows bytes; `blanks` counts the line feeds right before, and `number` is that of the last line that has one. -/
def Marks.shown (m : Marks) (blanks number : Nat) (out : ByteArray) : List UInt8 → ByteArray
  | [] => out
  | b :: rest =>
    if b == 0x0A then
      if m.squeezes && blanks ≥ 2 then m.shown blanks number out rest
      else
        let numbered := m.numbersAll && blanks ≥ 1
        let title := if numbered then padded 6 (number + 1) ++ "\t" else ""
        let out := out ++ title.toUTF8 ++ (if m.ends then "$\n" else "\n").toUTF8
        m.shown (blanks + 1) (if numbered then number + 1 else number) out rest
    else
      let numbered := (m.numbersAll || m.numbersFull) && blanks ≥ 1
      let title := if numbered then padded 6 (number + 1) ++ "\t" else ""
      let out := out ++ title.toUTF8 ++ (m.show b rest.head?).toByteArray
      m.shown 0 (if numbered then number + 1 else number) out rest

/-- The bytes with the marks; the first line starts as if behind a line feed. -/
def Marks.apply (m : Marks) (bytes : ByteArray) : ByteArray :=
  if m.isPlain then bytes else m.shown 1 0 .empty bytes.data.toList

/-- A file would be copied to its own end. -/
def copiesItself (j : Job) (input : ByteArray) (file : String) : Bool :=
  let source := if j.namesInput file then j.inputFile else (j.disk.locate file).toOption
  j.outputFile.isSome && source == j.outputFile && (j.content input file).toOption.any (! ·.isEmpty)

/-- Copies its files, or standard input. What one file becomes depends on the files before it. -/
def cat : Tool := fun j =>
  let chosen := choices catChoices j.arguments
  match chosen.rest with
  | .error message => j.misused message
  | .ok operands =>
    let files := if operands.isEmpty then ["-"] else operands
    let marks := Marks.ofChosen chosen
    let failed (file : String) (e : IoError) : List (Job.Finding ByteArray) :=
      [.complaint (j.complaint (j.quotedName false file ++ ": " ++ Job.wording e))]
    let read := (files.foldl (fun (r, before) file =>
      if copiesItself j r.input file then
        let complaint := j.complaint (j.quotedName false file ++ ": input file is output file")
        ({ r with findings := r.findings ++ [.complaint complaint] }, before)
      else
        let one := { j with input := r.input }.overFiles [file] failed (fun _ => .empty) fun _ bytes => bytes
        let all := one.results.foldl (· ++ ·) before
        let shown := one.findings.map fun
          | .result _ => .result ((marks.apply all).extract (marks.apply before).size (marks.apply all).size)
          | .complaint w => .complaint w
        ({ findings := r.findings ++ shown, input := one.input }, all))
      (({ findings := [], input := j.input }, .empty) : Job.Reading ByteArray × ByteArray)).1
    j.ends (read.written (fun _ bytes => bytes) ++ j.closing files "closing standard input") read.input

/-- How much of the front of its files `head` prints. -/
structure Front where
  count : Nat
  ofBytes : Bool
  /-- All but so much. -/
  fromEnd : Bool
  /-- What a line ends with. -/
  ending : UInt8

/-- Nothing has to be read for the front. -/
def Front.isNothing (f : Front) : Bool := f.count == 0 && !f.fromEnd

/-- The index behind the `n`-th line end, or the end. -/
def afterLines (ending : UInt8) (bytes : ByteArray) (n : Nat) : Nat :=
  (bytes.foldl (fun (i, left, found) b =>
    if left == 0 then (i, 0, found)
    else
      let left := if b == ending then left - 1 else left
      (i + 1, left, i + 1)) ((0, n, 0) : Nat × Nat × Nat)).2.2

/-- How many bytes satisfy a condition. -/
def countBytes (p : UInt8 → Bool) (bytes : ByteArray) : Nat :=
  bytes.foldl (fun n b => if p b then n + 1 else n) 0

/-- Where the front of some bytes ends. -/
def Front.stop (f : Front) (bytes : ByteArray) : Nat :=
  match f.ofBytes, f.fromEnd with
  | true, false => min f.count bytes.size
  | true, true => bytes.size - f.count
  | false, false => afterLines f.ending bytes f.count
  | false, true =>
    let isOpen := bytes.size > 0 && byteAt? bytes (bytes.size - 1) != some f.ending
    let lines := countBytes (· == f.ending) bytes + if isOpen then 1 else 0
    afterLines f.ending bytes (lines - f.count)

/-- Standard input is read in blocks of this size. -/
def blockSize : Nat := 8192

/-- What the reading of a front leaves. Of a pipe, bytes are read as counted, and lines are looked for in whole
blocks; in a file the place behind the front is returned to. -/
def Front.left (f : Front) (kind : InputKind) (bytes : ByteArray) : ByteArray :=
  let stop := f.stop bytes
  if kind == .file then bytes.extract stop bytes.size
  else if f.fromEnd then .empty
  else
    let stop := if f.ofBytes then stop else blockSize * ((stop + blockSize - 1) / blockSize)
    bytes.extract stop bytes.size

/-- What the letters behind a number multiply it by. -/
def unit? (letters : List Char) : Option Nat :=
  let orders := [('k', 1), ('K', 1), ('m', 2), ('M', 2), ('G', 3), ('T', 4), ('P', 5), ('E', 6), ('Z', 7), ('Y', 8),
    ('R', 9), ('Q', 10)]
  match letters with
  | [] => some 1
  | ['b'] => some 512
  | c :: more =>
    match orders.lookup c, more with
    | some n, [] | some n, ['i', 'B'] => some (Nat.pow 1024 n)
    | some n, ['B'] | some n, ['D'] => some (Nat.pow 1000 n)
    | _, _ => none

/-- A count with a unit; a unit alone counts once. The failure is what is added to the complaint. -/
def amount? (text : List Char) : Except String Nat :=
  let text := text.dropWhile Char.isWhitespace
  let text := if text.head? == some '+' then text.drop 1 else text
  let ds := text.takeWhile Char.isDigit
  let letters := text.drop ds.length
  let count := if ds.isEmpty && !letters.isEmpty then some 1 else (String.ofList ds).toNat?
  match count, unit? letters with
  | some n, some u => if n * u < wordBound then .ok (n * u) else .error ": Value too large for defined data type"
  | _, _ => .error ""

/-- The front that an option asks for. -/
def Front.take (l : Locale) (f : Front) (ofBytes : Bool) (text : String) : Except String Front :=
  let (fromEnd, ds) := match text.toList with
    | '-' :: ds => (true, ds)
    | ds => (false, ds)
  match amount? ds with
  | .ok count => .ok { f with count, ofBytes, fromEnd }
  | .error cause =>
    .error ("invalid number of " ++ (if ofBytes then "bytes" else "lines") ++ ": " ++
      quotedWord l (bytesOf (.ofList ds)) ++ cause)

def headChoices : List Choice :=
  [{ letter := 'c', name := "bytes", takes := true }, { letter := 'n', name := "lines", takes := true },
    { letter := 'q', name := "quiet" }, { letter := 'q', name := "silent" }, { letter := 'v', name := "verbose" },
    { letter := 'z', name := "zero-terminated" }, { letter := 'h', name := "help", isShort := false },
    { letter := 'V', name := "version", isShort := false }] ++
  "0123456789".toList.map fun d => { letter := d }

/-- A first argument that is a number, with letters behind it, in the spelling of the other options. A letter that
means nothing there is the failure. -/
def shortNumber (a : String) : Except String (List String) :=
  match a.toList with
  | '-' :: cs =>
    let ds := cs.takeWhile Char.isDigit
    let letters := cs.drop ds.length
    if ds.isEmpty then .ok [a]
    else
      match letters.find? (! ['b', 'c', 'k', 'l', 'm', 'q', 'v', 'z'].contains ·) with
      | some c => .error ("invalid trailing option -- " ++ firstByte c)
      | none =>
        let ofBytes := (letters.filter ['b', 'c', 'k', 'l', 'm'].contains).getLast?.any (· != 'l')
        let unit := (letters.filter ['b', 'c', 'k', 'm'].contains).getLast?.toList.filter (· != 'c')
        let flags := letters.filter ['q', 'v', 'z'].contains
        .ok (flags.map (fun c => String.ofList ['-', c]) ++ [if ofBytes then "-c" else "-n", .ofList (ds ++ unit)])
  | _ => .ok [a]

/-- What `head` shall do. -/
structure HeadPlan where
  front : Front
  /-- Whether titles are shown, if that was asked for. -/
  titled : Option Bool

/-- One option after the other. The failure is a complaint, and whether the hint follows it. -/
def HeadPlan.ofOptions (l : Locale) (p : HeadPlan) : List (Char × String) → Except (String × Bool) HeadPlan
  | [] => .ok p
  | (c, text) :: rest =>
    if c == 'c' || c == 'n' then
      match p.front.take l (c == 'c') text with
      | .ok front => { p with front }.ofOptions l rest
      | .error message => .error (message, false)
    else if c == 'q' || c == 'v' then { p with titled := some (c == 'v') }.ofOptions l rest
    else if c == 'z' then { p with front := { p.front with ending := 0 } }.ofOptions l rest
    else .error ("invalid trailing option -- " ++ c.toString, true)

/-- Prints the front of its files, or of standard input. -/
def head : Tool := fun j =>
  match (j.arguments.take 1).mapM shortNumber with
  | .error message => j.misused message
  | .ok first =>
    let chosen := choices headChoices (first.flatten ++ j.arguments.drop 1)
    let start : Front := { count := 10, ofBytes := false, fromEnd := false, ending := 0x0A }
    match HeadPlan.ofOptions j.locale { front := start, titled := none } chosen.given, chosen.rest with
    | .error (message, true), _ => j.misused message
    | .error (message, false), _ => j.refuses message
    | .ok _, .error message => j.misused message
    | .ok plan, .ok operands =>
      let files := if operands.isEmpty then ["-"] else operands
      let failed (file : String) (e : IoError) : List (Job.Finding (String × ByteArray)) :=
        let name := j.quotedName true (if j.namesInput file then "standard input" else file)
        let unread := "error reading " ++ name ++ ": " ++ Job.wording e
        if e == .isDirectory || e == .badStream then
          .result (file, .empty) :: if plan.front.isNothing then [] else [.complaint (j.complaint unread)]
        else [.complaint (j.complaint ("cannot open " ++ name ++ " for reading: " ++ Job.wording e))]
      let r := j.overFiles files failed (plan.front.left j.inputKind) fun file bytes =>
        (file, bytes.extract 0 (plan.front.stop bytes))
      let shown (i : Nat) : String × ByteArray → ByteArray := fun (file, bytes) =>
        let title := if file == "-" then "standard input" else file
        let title := (if i == 0 then "" else "\n") ++ "==> " ++ title ++ " <==\n"
        if plan.titled.getD (files.length > 1) then title.toUTF8 ++ bytes else bytes
      j.ends (r.written shown ++ j.closing files "-") r.input

end Tool
end Galley
