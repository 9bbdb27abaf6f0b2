import Galley.Decimal.Spelled
import Galley.Renderer.Copy
import Galley.Renderer.Formatted
import Galley.Renderer.Translate

/-! The programs that a command can name, and how a name leads to one. -/
namespace Galley
namespace Tool

/-- A text tells how long something takes: a number, and perhaps the letter of a unit. -/
def isDuration (text : String) : Bool :=
  match Decimal.Format.double.readingAt? text.toList with
  | none => false
  | some r =>
    let isPositive := match r.value with
      | .finite isNegative x => !isNegative || x.mantissa == 0
      | .infinite isNegative => !isNegative
      | .notANumber => false
    isPositive && [[], ['s'], ['m'], ['h'], ['d']].contains r.rest

/-- Waits for some time, which nothing here can tell. -/
def sleep : Tool := fun j =>
  let chosen := choices [] j.arguments
  match chosen.rest with
  | .error message => j.misused message
  | .ok [] => j.misused "missing operand"
  | .ok operands =>
    match operands.filter (! isDuration ·) with
    | [] => j.exits 0
    | bad =>
      let lines := bad.map fun a => "invalid time interval " ++ j.quotedWord (bytesOf a)
      j.misused (String.intercalate ("\n" ++ j.name ++ ": ") lines)

/-- The programs other than the shell, by name. -/
def named? : String → Option Tool
  | "cat" => some cat
  | "echo" => some echo
  | "true" => some fun j => j.exits 0
  | "false" => some fun j => j.exits 1
  | "wc" => some wc
  | "head" => some head
  | "tr" => some tr
  | "sleep" => some sleep
  | "printf" => some printf
  | _ => none

/-- The tool that a path leads to. Nothing else can be executed. -/
def atPath (d : Disk) (path : String) : Except IoError String := do
  let names ← d.locate path
  match d.root.node? names, names.getLast? with
  | some (.file _), some last =>
    if Disk.toolDirectories.contains names.dropLast && Disk.toolNames.contains last then .ok last
    else .error .permissionDenied
  | none, _ => .error .notFound
  | _, _ => .error .permissionDenied

/-- Looks for a tool in one directory after the other. What must not be executed is passed over, and is the failure
only if nothing is found behind it. -/
def inDirectories (d : Disk) (name : String) (found : IoError) : List String → Except IoError String
  | [] => .error found
  | directory :: rest =>
    match atPath d (Disk.join directory name) with
    | .ok tool => .ok tool
    | .error .permissionDenied => inDirectories d name .permissionDenied rest
    | .error .notFound | .error .notDirectory => inDirectories d name found rest
    | .error e => .error e

/-- The tool that a name stands for. A name without a slash is looked for where programs are. -/
def search (d : Disk) (name : String) : Except IoError String :=
  if name.contains '/' then atPath d name
  else if name.isEmpty then .error .notFound
  else if name.utf8ByteSize > Disk.maxName then .error .nameTooLong
  else inDirectories d name .notFound d.programPath

/-- The path at which a name without a slash is found. -/
def pathOf? (d : Disk) (name : String) : Option String :=
  (d.programPath.map (Disk.join · name)).find? fun path => (atPath d path).toOption.isSome

end Tool

end Galley
