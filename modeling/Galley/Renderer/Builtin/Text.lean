import Galley.Renderer.Builtin.Options
import Galley.Renderer.Printf

/-! The commands of the shell that print texts and look at them. -/
namespace Galley
namespace Shell

/-- Prints arguments as a format says, after all complaints. -/
def printf (s : Shell) (arguments : List String) : Shell :=
  s.withOptions "" "" arguments fun given =>
    match given.rest with
    | [] => s.fail "usage: printf format [arg ...]"
    | format :: rest =>
      let p := Printing.ofFormat format rest
      let s := (p.complaints.foldl complain s).withStatus (if p.complaints.isEmpty then 0 else 1)
      let s := match p.stopped with
        | some (some message) => s.fail message
        | _ => s
      s.emit 1 p.out

def echo (s : Shell) (arguments : List String) : Shell :=
  let (isOpen, arguments) := match arguments with
    | "-n" :: rest => (true, rest)
    | _ => (false, arguments)
  let (bytes, isCut) := Tool.resolve .plain (Conversion.bytesOf (String.intercalate " " arguments))
  let ending : List UInt8 := if isOpen || isCut then [] else [0x0A]
  (s.emit 1 (bytes ++ ending).toByteArray).withStatus 0

def test (s : Shell) (arguments : List String) : Shell :=
  match Condition.holds s arguments with
  | .ok holds => s.withStatus (if holds then 0 else 1)
  | .error message => s.fail message

/-- A condition up to a closing bracket. -/
def testInBrackets (s : Shell) (arguments : List String) : Shell :=
  if arguments.getLast?.any (·.startsWith "]") then s.test arguments.dropLast else s.fail "missing ]"

end Shell
end Galley
