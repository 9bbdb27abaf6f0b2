import Galley.Renderer.Builtin.Options
import Galley.Renderer.Tool

/-! The commands of the shell that tell what the name of a command stands for, and give it other names. -/
namespace Galley
namespace Shell

/-- The commands of the shell that are not special. -/
def ordinary : List String :=
  ["[", "alias", "bg", "cd", "chdir", "command", "echo", "false", "fg", "getopts", "hash", "jobs", "kill", "printf",
    "pwd", "read", "test", "true", "type", "ulimit", "umask", "unalias", "wait"]

/-- The shell carries out the command itself. -/
def isOwn (name : String) : Bool := Script.special.contains name || ordinary.contains name

/-- What the name of a command stands for. -/
inductive Meaning where
  | reserved
  | replaced (text : String)
  | special
  | own
  | function
  /-- A program with its path, which may have been looked for before. -/
  | program (path : String) (isRemembered : Bool)
  | nothing

/-- What a name stands for. -/
def meaning (s : Shell) (name : String) : Meaning :=
  if Script.reserved.contains name then .reserved
  else
    match s.aliases.lookup name with
    | some text => .replaced text
    | none =>
      if Script.special.contains name then .special
      else if (s.functions.lookup name).isSome then .function
      else if ordinary.contains name then .own
      else if name.contains '/' then
        if (s.disk.find (wide name)).toOption.isSome then .program name false else .nothing
      else
        match Tool.pathOf? s.world (wide name) with
        | some path => .program (narrow path) (s.remembered.contains name)
        | none => .nothing

/-- Tells in a sentence what a name stands for. -/
def describe (s : Shell) (name : String) : Shell :=
  let told (status : Nat) (text : String) : Shell := (s.say (name ++ text ++ "\n")).withStatus status
  match s.meaning name with
  | .reserved => told 0 " is a shell keyword"
  | .replaced text => told 0 (" is an alias for " ++ text)
  | .special => told 0 " is a special shell builtin"
  | .own => told 0 " is a shell builtin"
  | .function => told 0 " is a shell function"
  | .program path isRemembered => told 0 ((if isRemembered then " is a tracked alias for " else " is ") ++ path)
  | .nothing => told 127 ": not found"

/-- How an alias is shown. -/
def aliasLine (name text : String) : String := name ++ "=" ++ quoted text ++ "\n"

/-- Tells by what text a name could be replaced. -/
def resolve (s : Shell) (name : String) : Shell :=
  match s.meaning name with
  | .replaced text => (s.say ("alias " ++ aliasLine name text)).withStatus 0
  | .program path _ => (s.say (path ++ "\n")).withStatus 0
  | .nothing => s.withStatus 127
  | _ => (s.say (name ++ "\n")).withStatus 0

/-- Tells of some names; the status is that of the last that stands for nothing. -/
def describeAll (s : Shell) (names : List String) : Shell :=
  names.foldl (fun s name =>
    let after := s.describe name
    if after.last == 0 then after.withStatus s.last else after) (s.withStatus 0)

/-- Gives names to texts, or shows them, after all complaints. -/
def setAliases (s : Shell) (arguments : List String) : Shell :=
  if arguments.isEmpty then
    let all := s.aliases.mergeSort fun a b => a.1 ≤ b.1
    (s.say (String.join (all.map fun a => aliasLine a.1 a.2))).withStatus 0
  else
    let (s, lines) := arguments.foldl (fun (s, lines) argument =>
      let name := String.ofList (argument.toList.take 1 ++ (argument.toList.drop 1).takeWhile (· != '='))
      if name.length < argument.length then
        let text := String.ofList (argument.toList.drop (name.length + 1))
        ({ s with aliases := (name, text) :: s.aliases.filter (·.1 != name) }, lines)
      else
        match s.aliases.lookup name with
        | some text => (s, lines ++ aliasLine name text)
        | none => ((s.emit 2 (Text.latin1Bytes ("alias: " ++ name ++ " not found\n"))).withStatus 1, lines))
      (s.withStatus 0, "")
    if lines.isEmpty then s else s.say lines

/-- Takes names away from texts. -/
def dropAliases (s : Shell) (arguments : List String) : Shell :=
  s.withOptions "a" "" arguments fun given =>
    let s := s.withStatus 0
    if given.has 'a' then { s with aliases := [] }
    else
      given.rest.foldl (fun s name =>
        if (s.aliases.lookup name).isSome then { s with aliases := s.aliases.filter (·.1 != name) }
        else (s.emit 2 (Text.latin1Bytes ("unalias: " ++ name ++ " not found\n"))).withStatus 1) s

/-- A name was looked for among the programs. -/
def withRemembered (s : Shell) (name : String) : Shell :=
  if name.contains '/' || s.remembered.contains name then s else { s with remembered := s.remembered ++ [name] }

/-- Remembers where programs are, forgets that, or shows it. -/
def hash (s : Shell) (arguments : List String) : Shell :=
  s.withOptions "r" "" arguments fun given =>
    let s := s.withStatus 0
    if given.has 'r' then { s with remembered := [] }
    else if given.rest.isEmpty then
      s.say (String.join (s.remembered.filterMap fun name =>
        (Tool.pathOf? s.world (wide name)).map fun path => narrow path ++ "\n"))
    else
      given.rest.foldl (fun s name =>
        if isOwn name || (s.functions.lookup name).isSome then s
        else if (Tool.search s.world (wide name)).toOption.isSome then s.withRemembered name
        else (s.complain (name ++ ": not found")).withStatus 1) s

end Shell
end Galley
