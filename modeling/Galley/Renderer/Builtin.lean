import Galley.Renderer.Builtin.Names
import Galley.Renderer.Builtin.Signals
import Galley.Renderer.Builtin.Surroundings
import Galley.Renderer.Builtin.Text
import Galley.Renderer.Builtin.Variables

/-! The commands that a shell carries out itself, as functions from a shell and arguments to a shell. -/
namespace Galley
namespace Shell

def exit (s : Shell) : List String → Shell
  | [] => { s with halted := some (.exit s.last) }
  | a :: _ => s.withCount a fun n => { s with halted := some (.exit (n % 256)) }

def back (s : Shell) : List String → Shell
  | [] => { s with halted := some .back }
  | a :: _ => s.withCount a fun n => { s with last := n, halted := some .back }

/-- Ends loops, or their rounds. -/
def leave (s : Shell) (halt : Nat → Halt) (arguments : List String) : Shell :=
  s.withCount (arguments.headD "1") fun n =>
    if n == 0 then s.fail ("Illegal number: " ++ arguments.headD "")
    else if s.loops == 0 then s.withStatus 0
    else { s with last := 0, halted := some (halt (min n s.loops)) }

/-- What a shell does on a command of its own that runs no others. -/
def builtin? : String → Option (Shell → List String → Shell)
  | ":" | "true" => some fun s _ => s.withStatus 0
  | "false" => some fun s _ => s.withStatus 1
  | "exit" => some exit
  | "return" => some back
  | "break" => some fun s => s.leave .leave
  | "continue" => some fun s => s.leave .next
  | "shift" => some shift
  | "set" => some set
  | "unset" => some unset
  | "trap" => some trap
  | "export" => some exportAll
  | "readonly" => some protectAll
  | "local" => some makeLocal
  | "times" => some fun s _ => s.showTimes
  | "alias" => some setAliases
  | "unalias" => some dropAliases
  | "type" => some describeAll
  | "hash" => some hash
  | "kill" => some kill
  | "wait" => some wait
  | "jobs" => some showJobs
  | "bg" | "fg" => some resume
  | "cd" | "chdir" => some changeDirectory
  | "pwd" => some showDirectory
  | "umask" => some umask
  | "ulimit" => some ulimit
  | "getopts" => some getopts
  | "read" => some read
  | "printf" => some printf
  | "echo" => some echo
  | "test" => some test
  | "[" => some testInBrackets
  | _ => none

end Shell
end Galley
