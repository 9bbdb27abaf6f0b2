import Galley.CommandLine.Settings
import Galley.Config.Load
import Galley.Service
import Galley.Text.Hex

/-! Carrying out a command line, as a function of the words, the environment, standard input and the disk. The
configuration and the fonts are loaded first, whatever the command; then the source is read, the service is built,
and the result is written. -/
namespace Galley.CommandLine

/-- What a run of the program is given. -/
structure Invocation where
  words : List String
  environment : Environment
  input : ByteArray
  disk : Disk

/-- What a run of the program leaves. -/
structure Reply where
  status : Nat
  output : ByteArray
  /-- What goes to standard error. -/
  report : ByteArray
  disk : Disk

/-- Why a command fails: causes, outermost first, and the console lines that go with them. -/
structure Failure where
  causes : List String
  transcript : Array String
  /-- The host could not go on. -/
  isAbort : Bool

namespace Failure

/-- A failure with causes only. -/
def ofCauses (causes : List String) : Failure := { causes, transcript := #[], isAbort := false }

def ofTypeset (e : TypesetError) : Failure :=
  { causes := e.messages, transcript := e.transcript
    isAbort := match e with
      | .stopped .abort _ => true
      | _ => false }

/-- The lines of a failure. -/
def report (f : Failure) : String :=
  String.join (f.transcript.toList.map (· ++ "\n")) ++ "Error: " ++ String.intercalate ": " f.causes ++ "\n"

/-- The exit status. -/
def status (f : Failure) : Nat := if f.isAbort then 101 else 1

end Failure

/-- What a command does: it prints a text or fails, leaves the disk, and shows console lines meanwhile. -/
structure Deed where
  result : Except Failure String
  disk : Disk
  shown : Array String

/-- A deed that leaves the disk as it is and shows nothing. -/
def Deed.quiet (disk : Disk) (result : Except Failure String) : Deed := { result, disk, shown := #[] }

/-- The configuration of a run. -/
def loadConfig (s : Settings) (d : Disk) : Except Failure Config :=
  match s.config with
  | none => .ok .standard
  | some file => (Config.load d file).mapError fun e => .ofCauses e.messages

/-- The fonts of a run. -/
def loadFonts (s : Settings) (d : Disk) : Except Failure FontSource :=
  match s.fonts with
  | none => .ok .empty
  | some directory =>
    match FontTable.ofDirectory d directory with
    | .ok table => .ok table.source
    | .error e => .error (.ofCauses ["Failed to load fonts from " ++ directory ++ ": " ++ e.message])

/-- What a device holds. -/
def held (d : Disk) (device : List String) : ByteArray :=
  match d.root.node? device with
  | some (.file content) => content
  | _ => .empty

/-- The request that a picture is. -/
def readPicture (p : Picture) (d : Disk) : Except Failure Request :=
  match p.input with
  | some file =>
    match d.readText file with
    | .ok source => .ok { source, options := p.options }
    | .error e => .error (.ofCauses ["Failed to read " ++ file ++ ": " ++ e.message])
  | none =>
    match Disk.asText (held d Disk.inputDevice) with
    | .ok source => .ok { source, options := p.options }
    | .error e => .error (.ofCauses [e.message])

/-- Writes a result to a file, or prints it. -/
def deliver (d : Disk) (file : Option String) (content : ByteArray) (printed : String)
    (shown : Array String) : Deed :=
  match file with
  | none => { result := .ok printed, disk := d, shown }
  | some file =>
    match d.write file content with
    | .ok d => { result := .ok "", disk := d, shown }
    | .error e => { result := .error (.ofCauses [e.message]), disk := d, shown }

/-- The parts of the service of a run. -/
def parts {β : Type} (s : Settings) (config : Config) (fonts : FontSource) (d : Disk) (renderer : Renderer)
    (backing : Backing β) (kept : β) : Service.Parts β :=
  { config, store := .ofDirectory d s.assets, fonts, clock := .fixed, renderer, backing, kept }

/-- Typesets a picture and writes the page description. -/
def pageDeed {σ : Type} (compile : ByteArray → Option (Engine σ)) (parts : Service.Parts Unit) (d : Disk)
    (r : Request) (output : String) : Deed :=
  match Service.build compile parts with
  | (.error e, _) => .quiet d (.error (.ofTypeset e))
  | (.ok service, _) =>
    match service.typeset r with
    | (.error e, traffic) => { result := .error (.ofTypeset e), disk := d, shown := traffic.shown }
    | (.ok typeset, traffic) => deliver d (some output) typeset.page "" traffic.shown

/-- Renders a picture and delivers the markup; `diskOf` tells the disk that a state of the backing stands for, and
`left` the disk after the renderer has run on a page. -/
def renderDeed {σ β : Type} (compile : ByteArray → Option (Engine σ)) (parts : Service.Parts β)
    (diskOf : β → Disk) (left : ByteArray → Disk) (r : Request) (output : Option String) : Deed :=
  match Service.build compile parts with
  | (.error e, _) => .quiet (diskOf parts.kept) (.error (.ofTypeset e))
  | (.ok service, _) =>
    let (answer, service) := service.render r
    let disk := match answer.attempt.bind (·.page) with
      | some page => (diskOf service.cache.store).adopt (diskOf parts.kept) (left page)
      | none => diskOf service.cache.store
    let shown := (answer.attempt.map fun attempt => attempt.traffic.shown).getD #[]
    match answer.result with
    | some (.ok document) => deliver disk output document.markup.toUTF8 (document.markup ++ "\n") shown
    | some (.error e) => { result := .error (.ofTypeset e), disk, shown }
    | none => { result := .error (.ofCauses []), disk, shown }

/-- Carries out a command on a request. -/
def carryOut {σ : Type} (compile : ByteArray → Option (Engine σ)) (s : Settings) (environment : Environment)
    (config : Config) (fonts : FontSource) (d : Disk) (r : Request) : Deed :=
  match s.command with
  | .fingerprint _ => .quiet d (.ok (r.fingerprint.text ++ "\n"))
  | .page _ output => pageDeed compile (parts s config fonts d .identity Backing.none ()) d r output
  | .render _ line cache output =>
    match Renderer.Command.ofLine? line with
    | none => .quiet d (.error (.ofCauses ["Renderer command is empty"]))
    | some command =>
      let command := { command with environment }
      let renderer := command.renderer d
      match cache with
      | none =>
        renderDeed compile (parts s config fonts d renderer Backing.none ()) (fun _ => d) (command.left d) r output
      | some directory =>
        let parts := parts s config fonts d renderer (Backing.directory directory) d
        renderDeed compile parts id (command.left d) r output

/-- Loads what a command needs, and carries it out. -/
def perform {σ : Type} (compile : ByteArray → Option (Engine σ)) (s : Settings) (i : Invocation) : Deed :=
  let loaded : Except Failure Deed := do
    let config ← loadConfig s i.disk
    let disk := (s.config.map i.disk.afterReading).getD i.disk
    let fonts ← loadFonts s disk
    let r ← readPicture s.command.picture disk
    let disk := s.command.picture.input.elim (disk.set Disk.inputDevice (.file .empty)) disk.afterReading
    pure (carryOut compile s i.environment config fonts disk r)
  match loaded with
  | .ok deed => deed
  | .error e => .quiet i.disk (.error e)

/-- A character as it is logged: those that could steer a terminal are spelled out. -/
def harmless (c : Char) : List Char :=
  if ['\x1b', '\x07', '\x08', '\x0c', '\x7f'].contains c then
    ['\\', 'x'] ++ Text.hexByte (UInt8.ofNat c.toNat)
  else if 0x80 ≤ c.toNat && c.toNat ≤ 0x9F then
    ['\\', 'u', '\x7b'] ++ Nat.toDigits 16 c.toNat ++ ['\x7d']
  else [c]

/-- A console line as it is logged: plain if the environment asks for that, and else in green and gray. -/
def consoleLine (env : Environment) (text : String) : String :=
  let isPlain := (env.lookup "NO_COLOR").any fun v => !v.isEmpty
  let front := if isPlain then " INFO texbox::console:"
    else Text.styled [32] " INFO" ++ " " ++ Text.styled [2] "texbox::console" ++ Text.styled [2] ":"
  front ++ " " ++ .ofList (text.toList.flatMap harmless) ++ "\n"

/-- The name and version of the program. -/
def versionLine : String := "texbox 0.3.0\n"

/-- A reply without a deed. -/
def Reply.plain (status : Nat) (output report : String) (disk : Disk) : Reply :=
  { status, output := output.toUTF8, report := report.toUTF8, disk }

/-- Runs the program. A command line that is refused has the status 2 and prints nothing. The standard streams are
files too, so that a command can be told to read or to write them. -/
def run {σ : Type} (compile : ByteArray → Option (Engine σ)) (i : Invocation) : Reply :=
  match Settings.ofWords i.words i.environment with
  | .error .malformed => .plain 2 "" (Usage.printed none i.environment false) i.disk
  | .error .version => .plain 0 versionLine "" i.disk
  | .error (.help command full) => .plain 0 (Usage.printed command i.environment full) "" i.disk
  | .ok settings =>
    let disk := i.disk.set Disk.inputDevice (.file i.input)
    let disk := match i.environment.lookup "PATH" with
      | some path => { disk with programPath := Disk.directoriesOf path }
      | none => disk
    let deed := perform compile settings { i with disk }
    let shown := String.join (deed.shown.toList.map (consoleLine i.environment))
    let reply := match deed.result with
      | .ok output => Reply.plain 0 output shown deed.disk
      | .error f => Reply.plain f.status "" (shown ++ f.report) deed.disk
    { reply with
      output := reply.output ++ held reply.disk Disk.outputDevice
      report := reply.report ++ held reply.disk Disk.errorDevice }

end Galley.CommandLine
