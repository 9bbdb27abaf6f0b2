import Galley.Renderer.Builtin
import Galley.Renderer.Redirection

/-! The programs that a shell starts, among them other shells: what they are given, and what the shell makes of what
they leave. -/
namespace Galley
namespace Shell

/-! ## Programs -/

/-- How a program complains that its output cannot be written. -/
def writeComplaint (s : Shell) (base : String) : String :=
  match base, s.handle? 1 with
  | "cat", none => "standard output: " ++ Job.wording .badStream
  | "wc", some (_, .device _) => "write error"
  | _, some (_, .device _) => "write error: " ++ Job.wording .noSpace
  | _, _ => "write error: " ++ Job.wording .badStream

/-- The job of a program on the streams of the shell. -/
def job (s : Shell) (name : String) (arguments : List String) : Job :=
  let fileOf (stream : Nat) : Option (List String) := (s.handle? stream).bind (·.2.file?)
  { name := wide name, arguments := arguments.map wide, disk := s.disk
    input := (s.inputOf 0).toOption.getD .empty
    inputKind := ((s.handle? 0).map fun h => h.2.kind s.disk).getD (.failing .badStream)
    inputFile := fileOf 0, outputFile := fileOf 1
    environment := s.environment.map fun (name, value) => (name, wide value) }

/-- Runs a program other than a shell. One that copies does not start without an output. -/
def runTool (s : Shell) (name base : String) (tool : Tool) (arguments : List String) : Shell :=
  let o := if base == "cat" && (s.handle? 1).isNone then
      let j := s.job name arguments
      { j.exits 0 with written := [.output [0].toByteArray] }
    else tool (s.job name arguments)
  let s := { s.past 0 o.rest with isCut := false }
  let s := o.written.foldl (fun s w => match w with
    | .output bytes => s.emit 1 bytes
    | .complaint bytes => s.emit 2 bytes) s
  if s.isCut then
    ({ s with isCut := false }.emit 2 (Text.latin1Bytes (name ++ ": " ++ s.writeComplaint base ++ "\n"))).withStatus 1
  else s.withStatus o.status.toNat

/-! ## Shells -/

/-- The options in front of the arguments of a shell, and the arguments behind them. -/
def launchOptions : List String → List String × List String
  | [] => ([], [])
  | "-o" :: name :: rest =>
    let (options, operands) := launchOptions rest
    ("-o" :: name :: options, operands)
  | "+o" :: name :: rest =>
    let (options, operands) := launchOptions rest
    ("+o" :: name :: options, operands)
  | a :: rest =>
    if a == "--" || a == "-" then ([], rest)
    else if a.length > 1 && (a.startsWith "-" || a.startsWith "+") then
      let (options, operands) := launchOptions rest
      (a :: options, operands)
    else ([], a :: rest)

/-- A shell that is about to run a text. -/
structure Launched where
  shell : Shell
  text : String
  /-- The text comes from a file, so that it may be shown line by line. -/
  isShown : Bool

/-- Gives a new shell, which has its streams, its arguments. The failure is the status and a complaint. -/
def launch (s : Shell) (arguments : List String) : Except (Nat × String) Launched := do
  let (options, operands) := launchOptions arguments
  let letters := (options.filter (·.startsWith "-")).flatMap fun o => o.toList.drop 1
  let plain := options.map fun o =>
    if o.startsWith "-" then String.ofList (o.toList.filter fun c => c != 'c' && c != 'l') else o
  let (s, _) ← match s.readOptions (plain.filter (· != "-")) with
    | .ok found => .ok found
    | .error message => .error (2, "0: " ++ message)
  if letters.contains 'c' then
    match operands with
    | script :: rest =>
      .ok { shell := { s with name := rest.headD s.name, arguments := rest.drop 1 }, text := script, isShown := false }
    | [] => .error (2, "0: -c requires an argument")
  else if operands.isEmpty || letters.contains 's' then
    let text := Text.latin1 ((s.inputOf 0).toOption.getD .empty)
    let shell := (s.past 0 .empty).withSwitch true 's'
    .ok { shell := { shell with arguments := operands }, text, isShown := true }
  else
    let file := operands.headD ""
    let shell := { s with name := file, arguments := operands.drop 1 }
    match s.openFile .read file with
    | .ok (opened, n) =>
      let bytes := ((opened.handles[n]?).map fun h => h.content s.disk).getD (.ok .empty)
      .ok { shell, text := Text.latin1 (bytes.toOption.getD .empty), isShown := true }
    | .error message =>
      let isMissing := match s.disk.find (wide file) with
        | .error .notFound | .error .notDirectory => true
        | _ => false
      .error (if isMissing then 2 else 126, "0: " ++ message)

/-- A new shell that a shell starts. -/
def child (s : Shell) (name : String) : Shell :=
  let c := start name [] s.disk (s.environment.filter fun e => e.1 != "PPID")
  let c := c.modify "PPID" fun v => { v with value := some (toString s.number) }
  { c with number := s.number + 1, ancestors := s.number :: s.ancestors, handles := s.handles, streams := s.streams }

/-- The status that a finished shell leaves. -/
def status (s : Shell) : ExitStatus :=
  match s.halted with
  | some (.exit n) => .code n
  | some (.signal n) => .signal n
  | some .failure => .code 2
  | _ => .code (s.last % 256)

/-- The shell after another one that shared its handles. What the other one has opened is closed. -/
def after (s other : Shell) : Shell :=
  let handles := other.handles.extract 0 s.handles.size
  let s := { s with disk := { other.disk with here := s.disk.here }, handles, felled := other.felled }
  match s.felled with
  | some (number, n) => if number == s.number && !s.isPart then { s with felled := none }.receive n else s
  | none => s

/-- The shell after a shell that it has started. -/
def afterChild (s c : Shell) : Shell :=
  let s := (s.after c).report c.status
  s.withStatus c.status.toNat

/-! ## Shells in shells -/

/-- A shell in a shell: of the traps only those that ignore a signal hold in it. -/
def fork (s : Shell) : Shell :=
  { s with traps := s.traps.filter (·.2.isEmpty), pending := [], isPart := true }

/-- The shell after a shell in it; a signal ends both. -/
def rejoin (s inner : Shell) : Shell :=
  let s := s.after inner
  match inner.halted with
  | some (.signal n) => { s with halted := some (.signal n) }
  | _ => if s.halted.isSome then s else s.withStatus inner.status.toNat

/-- Runs something in a shell of its own, with its output led into a new pipe; what it printed is the second part. -/
def captured (s : Shell) (run : Shell → Shell) : Shell × ByteArray :=
  let (inner, n) := s.fork.withHandle (.sink .empty)
  let inner := run (inner.withStream 1 n)
  let bytes := match inner.handles[n]? with
    | some (.sink bytes) => bytes
    | _ => .empty
  (s.rejoin inner, bytes)

/-- The text that stands for a captured output: without the line feeds at its end. -/
def capturedText (bytes : ByteArray) : String :=
  let cs := (Text.latin1 bytes).toList.filter (· != '\x00')
  .ofList (cs.reverse.dropWhile (· == '\n')).reverse

end Shell
end Galley
