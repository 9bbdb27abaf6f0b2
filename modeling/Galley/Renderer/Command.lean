import Galley.Renderer.Evaluation
import Galley.Text.Blank

/-! Renderers: what turns a page description into markup. A renderer command names a program and its arguments; the
program reads the page description and writes the markup. Its exit status decides whether it succeeded, and only
then does its output have to be a text. -/
namespace Galley

/-- Why there is no markup. -/
inductive RenderError where
  | spawn (program : String) (cause : IoError)
  | failed (status : ExitStatus) (errors : String)
  | notText (flaw : Text.Flaw)
  deriving DecidableEq

namespace RenderError

/-- The causes of an error, outermost first. -/
def messages : RenderError → List String
  | spawn program cause => ["Failed to start renderer '" ++ program ++ "': " ++ cause.message, cause.message]
  | failed status errors => ["Renderer exited with " ++ status.message ++ ": " ++ errors]
  | notText flaw => ["Renderer produced invalid UTF-8", flaw.message]

def message (e : RenderError) : String := (e.messages.head?).getD ""

end RenderError

/-- A renderer is a function of the page description. -/
abbrev Renderer := ByteArray → Except RenderError String

namespace Renderer

/-- The page description itself, read as text. -/
def identity : Renderer := fun page => (Text.decode page).mapError .notText

/-- A program and its arguments, and the variables that it sees. -/
structure Command where
  program : String
  arguments : List String
  environment : List (String × String) :=
    [("HOME", "/root"), ("LANG", "C.UTF-8"), ("PATH", String.intercalate ":" Disk.fresh.programPath)]

namespace Command

/-- The command that a line spells, its words separated by blanks; none in a blank line. -/
def ofLine? (line : String) : Option Command :=
  match Text.words line with
  | [] => none
  | program :: arguments => some { program, arguments }

/-- The words of a command, the program first. -/
def words (c : Command) : List String := c.program :: c.arguments

/-- The longest word of a command, and how much all words may take up, with a terminator and an address each. -/
def maxWord : Nat := 131071
def maxWords : Nat := 2097152

/-- The words fit where a program is given them. -/
def fits (c : Command) : Bool :=
  c.words.all (·.utf8ByteSize ≤ maxWord) && c.words.foldl (fun n w => n + w.utf8ByteSize + 9) 0 ≤ maxWords

/-- Starts a command on a page description. -/
def start (c : Command) (d : Disk) (page : ByteArray) : Except IoError Outcome := do
  if c.words.any (·.contains '\x00') then .error .nulInCommand
  else
    let base ← Tool.search d c.program
    if !c.fits then .error .argumentsTooLong
    else
      let tool := (Tool.named? base).getD Shell.tool
      .ok (tool { name := c.program, arguments := c.arguments, disk := d, input := page
                  environment := c.environment })

/-- The disk after a command has run on a page description. -/
def left (c : Command) (d : Disk) (page : ByteArray) : Disk :=
  match c.start d page with
  | .error _ => d
  | .ok outcome => outcome.disk

end Command

/-- What the outcome of a program means. -/
def judge (o : Outcome) : Except RenderError String :=
  if o.status == .code 0 then (Text.decode o.output).mapError .notText
  else .error (.failed o.status (Text.trim (Text.utf8Lossy o.complaints)))

/-- The renderer that a command is, on a disk. -/
def Command.renderer (c : Command) (d : Disk) : Renderer := fun page =>
  match c.start d page with
  | .error cause => .error (.spawn c.program cause)
  | .ok outcome => judge outcome

end Renderer
end Galley
