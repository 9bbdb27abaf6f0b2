import Galley.Renderer.Arithmetic
import Galley.Renderer.Script.Grammar
import Galley.Renderer.Stream
import Galley.Text.Latin1
import Galley.Text.Utf8

/-! A shell while it runs a script. It keeps variables, functions, aliases and the status of the last command. Its
streams are numbers for handles, which the shells that it starts share with it. The texts of a shell are sequences
of bytes, each of which is held as the character of the same number. -/
namespace Galley

/-- Why a shell does not run on. -/
inductive Halt where
  | exit (n : Nat)
  /-- Something went wrong. That ends the shell, or the command of the shell in which it happened. -/
  | failure
  | signal (n : Nat)
  /-- So many loops end, or all but the last of them end and that goes on with its next round. -/
  | leave (loops : Nat)
  | next (loops : Nat)
  /-- A function ends. -/
  | back
  deriving DecidableEq

/-- A variable, which may be known without having a value. -/
structure Variable where
  value : Option String
  /-- Other programs see it. -/
  isExported : Bool := false
  isReadOnly : Bool := false

/-- What a function puts back when it ends. -/
inductive Saved where
  | held (name : String) (old : Option Variable)
  | switches (letters : List Char)

/-- How far the options among arguments have been read: the argument, and the place in the one before it. -/
structure Scan where
  index : Nat
  place : Option Nat

def Scan.start : Scan := { index := 1, place := none }

structure Shell where
  /-- The number that the shell is known by, and those of the shells that started it. -/
  number : Nat
  ancestors : List Nat
  /-- It runs beside the shell of its number, as a part of that. -/
  isPart : Bool
  /-- A signal that was sent to an ancestor. -/
  felled : Option (Nat × Nat)
  name : String
  arguments : List String
  bindings : List (String × Variable)
  functions : List (String × Script)
  aliases : List (String × String)
  /-- The names that were looked for among the programs and found. -/
  remembered : List String
  /-- What is run when a signal comes; the number zero stands for the end of the shell. -/
  traps : List (Nat × String)
  /-- The signals that have come and have not been answered yet. -/
  pending : List Nat
  /-- The letters of the options that are on. -/
  switches : List Char
  /-- What the functions under way put back, the innermost first. -/
  frames : List (List Saved)
  scan : Scan
  /-- The commands that run aside, with the statuses that they end with. -/
  jobs : List (Nat × ExitStatus)
  /-- The rights that new files do not get. -/
  mask : Nat
  disk : Disk
  handles : Array Handle
  /-- The handles that streams lead to. -/
  streams : List (Nat × Nat)
  /-- Some output could not be written. -/
  isCut : Bool
  /-- The command whose text runs, with a colon and a space. -/
  label : String
  /-- The line of the command that runs, and that up to which its text has been read. -/
  line : Nat
  reached : Nat
  /-- The status of the last command. -/
  last : Nat
  halted : Option Halt
  /-- How many loops are under way. -/
  loops : Nat
  /-- The status of what runs is asked for, so that a failure of it ends nothing. -/
  isGuarded : Bool
  /-- The status of the last script that was run for a word of the command under way. -/
  answered : Nat

namespace Shell

/-! ## Texts -/

/-- A text as bytes, and bytes as a text. -/
def narrow (text : String) : String := Text.latin1 text.toUTF8
def wide (text : String) : String := Text.utf8Lossy (Text.latin1Bytes text)

/-- Where a shell is. -/
def placeOf (d : Disk) : String := narrow ("/" ++ String.intercalate "/" d.here)

/-- The number of the first shell, and that of the program that started it. -/
def firstNumber : Nat := 2
def parentNumber : Nat := 1

/-- The number of the first command that runs aside. -/
def asideNumber : Nat := 1000

/-- The variables that a shell starts with, if no other values are given. -/
def givenBindings (d : Disk) : List (String × Variable) :=
  [("IFS", { value := some " \t\n" }), ("OPTIND", { value := some "1" }),
    ("PPID", { value := some (toString parentNumber) }), ("PS1", { value := some "# " }),
    ("PS2", { value := some "> " }), ("PS4", { value := some "+ " }),
    ("PWD", { value := some (placeOf d), isExported := true })]

/-- The variables that a shell takes over; how words are split is not among them. -/
def taken (environment : List (String × String)) : List (String × Variable) :=
  (environment.filter fun (name, _) => name != "IFS" && Script.isName name).map fun (name, value) =>
    (name, { value := some value, isExported := true })

/-- A shell at its start. -/
def start (name : String) (arguments : List String) (disk : Disk) (environment : List (String × String)) : Shell :=
  let own := taken (environment.filter fun e => !(["PWD", "PPID", "OPTIND"].contains e.1))
  let given := (givenBindings disk).filter fun b => (own.lookup b.1).isNone
  { number := firstNumber, ancestors := [], isPart := false, felled := none, name, arguments, bindings := given ++ own
    functions := [], aliases := [], remembered := [], traps := [], pending := [], switches := [], frames := []
    scan := .start, jobs := [], mask := 0o022, disk, handles := #[]
    streams := [], isCut := false, label := "", line := 1, reached := 1, last := 0, halted := none, loops := 0
    isGuarded := false, answered := 0 }

/-- A shell with the standard streams: what it reads, and two pipes that it writes to. -/
def withPipes (s : Shell) (input : Handle) : Shell :=
  { s with handles := #[input, .sink .empty, .sink .empty], streams := [(0, 0), (1, 1), (2, 2)] }

/-- The option of a letter is on. -/
def has (s : Shell) (letter : Char) : Bool := s.switches.contains letter

/-! ## Streams -/

/-- The handle that a stream leads to. -/
def handle? (s : Shell) (stream : Nat) : Option (Nat × Handle) := do
  let n ← s.streams.lookup stream
  (s.handles[n]?).map (n, ·)

/-- Sends bytes into a stream. -/
def emit (s : Shell) (stream : Nat) (bytes : ByteArray) : Shell :=
  match s.handle? stream with
  | none => { s with isCut := s.isCut || (stream == 1 && !bytes.isEmpty) }
  | some (n, _) =>
    let held := (s.handles[n]?).getD (.device .null)
    let s := { s with handles := s.handles.setIfInBounds n (.device .null) }
    match held.write s.disk bytes with
    | .ok (h, disk) => { s with disk, handles := s.handles.setIfInBounds n h }
    | .error _ =>
      { s with handles := s.handles.setIfInBounds n held, isCut := s.isCut || (stream == 1 && !bytes.isEmpty) }

/-- Prints a text. -/
def say (s : Shell) (text : String) : Shell := s.emit 1 (Text.latin1Bytes text)

/-- Prints a complaint. -/
def complain (s : Shell) (message : String) : Shell :=
  s.emit 2 (Text.latin1Bytes (s.name ++ ": " ++ toString s.line ++ ": " ++ s.label ++ message ++ "\n"))

/-- What is left to read of a stream. -/
def inputOf (s : Shell) (stream : Nat) : Except IoError ByteArray :=
  match s.handle? stream with
  | some (_, h) => h.content s.disk
  | none => .error .badStream

/-- The shell after a stream was read but for a rest. -/
def past (s : Shell) (stream : Nat) (rest : ByteArray) : Shell :=
  match s.handle? stream with
  | some (n, h) => { s with handles := s.handles.setIfInBounds n (h.past s.disk rest) }
  | none => s

/-! ## Statuses -/

def withStatus (s : Shell) (n : Nat) : Shell := { s with last := n }

/-- Complains and goes on. -/
def refuse (s : Shell) (message : String) : Shell := (s.complain message).withStatus 2

/-- Complains, and ends what runs. -/
def fail (s : Shell) (message : String) : Shell := { s.complain message with last := 2, halted := some .failure }

/-! ## Variables -/

/-- The value of a variable. -/
def bound? (s : Shell) (name : String) : Option String := (s.bindings.lookup name).bind (·.value)

/-- Changes what is known of a variable. -/
def modify (s : Shell) (name : String) (change : Variable → Variable) : Shell :=
  let old := (s.bindings.lookup name).getD { value := none }
  { s with bindings := (name, change old) :: s.bindings.filter (·.1 != name) }

/-- Sets a variable. Some variables tell the shell something. -/
def store (s : Shell) (name text : String) : Except String Shell :=
  if (s.bindings.lookup name).any (·.isReadOnly) then .error (name ++ ": is read only")
  else
    let s := s.modify name fun v => { v with value := some text, isExported := v.isExported || s.has 'a' }
    match name with
    | "OPTIND" =>
      match text.toNat? with
      | some n => .ok { s with scan := { index := max 1 n, place := none } }
      | none => .error ("Illegal number: " ++ text)
    | "PATH" => .ok { s with remembered := [] }
    | _ => .ok s

/-- Sets a variable, or ends the shell if that cannot be done. -/
def assign (s : Shell) (name text : String) : Shell :=
  match s.store name text with
  | .ok s => s
  | .error message => s.fail message

/-- The characters that split words: those of a variable, or blanks if it is not there. -/
def separators (s : Shell) : List Char := ((s.bound? "IFS").getD " \t\n").toList

/-- What stands between the arguments when they are written as one text. -/
def joint (s : Shell) : String :=
  match s.bound? "IFS" with
  | some text => .ofList (text.toList.take 1)
  | none => " "

/-- The letters of the options, in the order in which they are shown. -/
def letters : List Char := ['p', 'u', 'b', 'a', 'C', 'E', 'V', 'v', 'x', 's', 'n', 'm', 'i', 'I', 'f', 'e']

/-- The value of a parameter that is set; the arguments are joined by a text. -/
def value? (s : Shell) (joint name : String) : Option String :=
  match name with
  | "?" => some (toString s.last)
  | "$" => some (toString s.number)
  | "#" => some (toString s.arguments.length)
  | "-" => some (.ofList (letters.filter s.has))
  | "!" => s.jobs.head?.map fun job => toString job.1
  | "@" | "*" => some (String.intercalate joint s.arguments)
  | "0" => some s.name
  | name =>
    match name.toNat? with
    | some 0 => some s.name
    | some n => s.arguments[n - 1]?
    | none => s.bound? name

/-- How formulas reach the variables. -/
def holder : Formula.Holder Shell := { find := bound?, store := store }

/-- The variables that other programs see. -/
def environment (s : Shell) : List (String × String) :=
  s.bindings.filterMap fun (name, v) => if v.isExported then v.value.map (name, ·) else none

/-- Where programs are looked for. -/
def searchPath (s : Shell) : List String := Disk.directoriesOf (wide ((s.bound? "PATH").getD ""))

/-- The disk, with programs looked for where the shell says. -/
def world (s : Shell) : Disk := { s.disk with programPath := s.searchPath }

end Shell
end Galley
