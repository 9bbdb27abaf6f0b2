import Galley.Bytes
import Galley.Disk

/-! Jobs for programs and what comes of them. A program is a function from its arguments, a disk and standard input
to what it writes, an exit status, and what it left of its input. -/
namespace Galley

/-- How a program ends. -/
inductive ExitStatus where
  | code (n : Nat)
  | signal (n : Nat)
  deriving DecidableEq

namespace ExitStatus

/-- The signals that have a name. -/
def signals : List (String × Nat) :=
  [("HUP", 1), ("INT", 2), ("QUIT", 3), ("ILL", 4), ("TRAP", 5), ("ABRT", 6), ("BUS", 7), ("FPE", 8), ("KILL", 9),
    ("USR1", 10), ("SEGV", 11), ("USR2", 12), ("PIPE", 13), ("ALRM", 14), ("TERM", 15), ("STKFLT", 16), ("CHLD", 17),
    ("CONT", 18), ("STOP", 19), ("TSTP", 20), ("TTIN", 21), ("TTOU", 22), ("URG", 23), ("XCPU", 24), ("XFSZ", 25),
    ("VTALRM", 26), ("PROF", 27), ("WINCH", 28), ("IO", 29), ("PWR", 30), ("SYS", 31)]

/-- The greatest number of a signal. -/
def maxSignal : Nat := 64

/-- The signals that a program does not notice unless it asks for them. -/
def unnoticed : List Nat := [17, 18, 23, 28]

def message : ExitStatus → String
  | code n => "exit status: " ++ toString n
  | signal n =>
    let name := match signals.find? (·.2 == n) with
      | some (name, _) => " (SIG" ++ name ++ ")"
      | none => ""
    "signal: " ++ toString n ++ name

/-- The status as a shell counts it. -/
def toNat : ExitStatus → Nat
  | code n => n
  | signal n => 128 + n

end ExitStatus

/-- Bytes that a program writes: output, or a complaint. -/
inductive Written where
  | output (bytes : ByteArray)
  | complaint (bytes : ByteArray)

/-- What a program leaves behind. -/
structure Outcome where
  /-- What it writes, in order. -/
  written : List Written
  status : ExitStatus
  /-- What it did not take of its standard input. -/
  rest : ByteArray
  disk : Disk

namespace Outcome

def output (o : Outcome) : ByteArray :=
  o.written.foldl (fun all w => match w with
    | .output bytes => all ++ bytes
    | .complaint _ => all) .empty

def complaints (o : Outcome) : ByteArray :=
  o.written.foldl (fun all w => match w with
    | .output _ => all
    | .complaint bytes => all ++ bytes) .empty

end Outcome

/-- What standard input is. A file can be read again from any place of it. -/
inductive InputKind where
  | pipe
  | file
  /-- It cannot be read. -/
  | failing (cause : IoError)
  deriving DecidableEq

/-- What a program is given. -/
structure Job where
  /-- The name that it was called by. -/
  name : String
  arguments : List String
  disk : Disk
  input : ByteArray
  inputKind : InputKind := .pipe
  /-- The file that standard input comes from. -/
  inputFile : Option (List String) := none
  /-- The file that its output goes to. -/
  outputFile : Option (List String) := none
  /-- The variables that it sees. -/
  environment : List (String × String) := []

/-- A program. -/
abbrev Tool := Job → Outcome

def Tool.bytesOf (s : String) : List UInt8 := s.toUTF8.data.toList

namespace Job

/-- The outcome of a job that does nothing but end. -/
def exits (j : Job) (status : Nat) : Outcome :=
  { written := [], status := .code status, rest := j.input, disk := j.disk }

/-- The outcome of a job that only prints. -/
def prints (j : Job) (output : ByteArray) : Outcome := { j.exits 0 with written := [.output output] }

/-- A line that a program complains with. -/
def complaint (j : Job) (message : String) : Written := .complaint (j.name ++ ": " ++ message ++ "\n").toUTF8

/-- The outcome of a job that cannot even start. -/
def refuses (j : Job) (message : String) : Outcome := { j.exits 1 with written := [j.complaint message] }

/-- The outcome of a job whose options make no sense; a hint follows the complaint. -/
def misused (j : Job) (message : String) : Outcome :=
  j.refuses (message ++ "\nTry '" ++ j.name ++ " --help' for more information.")

/-- The outcome of a job that has written something; it fails if that is also a complaint. -/
def ends (j : Job) (written : List Written) (rest : ByteArray) : Outcome :=
  let isGood := written.all fun
    | .output _ => true
    | .complaint _ => false
  { written, status := .code (if isGood then 0 else 1), rest, disk := j.disk }

/-- The wording of a failed access, without the number. -/
def wording (e : IoError) : String := (e.message.splitOn " (os error").headD ""

/-- A name on a command line stands for standard input: it is a hyphen, or leads there. -/
def namesInput (j : Job) (file : String) : Bool :=
  file == "-" || (j.disk.locate file).toOption == some Disk.inputDevice

/-- The content of a file or of what is left of standard input. -/
def content (j : Job) (input : ByteArray) (file : String) : Except IoError ByteArray :=
  if j.namesInput file then
    match j.inputKind with
    | .failing cause => .error cause
    | _ => .ok input
  else j.disk.read file

/-- What comes of reading a file: a result, or a complaint that the reading goes on after. -/
inductive Finding (α : Type) where
  | result (a : α)
  | complaint (w : Written)

/-- What reading one file after the other comes to. -/
structure Reading (α : Type) where
  findings : List (Finding α)
  /-- What is left of standard input. -/
  input : ByteArray

/-- The results alone. -/
def Reading.results {α : Type} (r : Reading α) : List α :=
  r.findings.filterMap fun
    | .result a => some a
    | .complaint _ => none

/-- What is written for the findings; a result is shown with its number among the results. -/
def Reading.written {α : Type} (r : Reading α) (shown : Nat → α → ByteArray) : List Written :=
  (r.findings.foldl (fun (n, ws) f => match f with
    | .result a => (n + 1, .output (shown n a) :: ws)
    | .complaint w => (n, w :: ws)) ((0, []) : Nat × List Written)).2.reverse

/-- Reads files one after the other. Standard input goes on where the reading of it before ended: `left` tells what
one reading leaves of it, and `failed` what is found where a file cannot be read. -/
def overFiles {α : Type} (j : Job) (files : List String) (failed : String → IoError → List (Finding α))
    (left : ByteArray → ByteArray) (each : String → ByteArray → α) : Reading α :=
  files.foldl (fun r file =>
    match j.content r.input file with
    | .ok bytes =>
      { findings := r.findings ++ [.result (each file bytes)]
        input := if j.namesInput file then left r.input else r.input }
    | .error e => { r with findings := r.findings ++ failed file e })
    { findings := [], input := j.input }

/-- What a program complains of at its end if it was to read an input that is closed. -/
def closing (j : Job) (files : List String) (label : String) : List Written :=
  if j.inputKind == .failing .badStream && files.any j.namesInput then
    [j.complaint (label ++ ": " ++ Job.wording .badStream)]
  else []

end Job
end Galley
