import Galley.Renderer.Builtin.Options

/-! The commands of the shell that deal with its variables, arguments and options. -/
namespace Galley
namespace Shell

/-! ## Variables -/

/-- The variables with a mark, by name, as commands that set them. -/
def listVariables (s : Shell) (front : String) (isListed : Variable → Bool) : Shell :=
  let found := (s.bindings.filter fun b => isListed b.2).mergeSort fun a b => a.1 ≤ b.1
  s.say (String.join (found.map fun (name, v) =>
    front ++ name ++ ((v.value.map fun text => "=" ++ quoted text).getD "") ++ "\n"))

/-- The name in front of a sign of equality, and the text behind it. -/
def divided (argument : String) : String × Option String :=
  let name := argument.toList.takeWhile (· != '=')
  let text := argument.toList.drop (name.length + 1)
  (.ofList name, if name.length < argument.length then some (.ofList text) else none)

/-- Sets the variable that an argument names. -/
def assignTo (s : Shell) (argument text : String) : Shell :=
  let name := (divided argument).1
  if s.halted.isSome then s
  else if !Script.isName name then s.fail (name ++ ": bad variable name")
  else s.assign name text

/-- Sets or marks a variable that an argument names. -/
def declareOne (s : Shell) (mark : Variable → Variable) (argument : String) : Shell :=
  if s.halted.isSome then s
  else
    let (name, text) := divided argument
    if !Script.isName name then s.fail (name ++ ": bad variable name")
    else
      let s := match text with
        | some text => s.assign name text
        | none => s
      if s.halted.isSome then s else s.modify name mark

/-- Marks variables, which may be set too; without any, shows those that are marked. -/
def declare (s : Shell) (front : String) (isMarked : Variable → Bool) (mark : Variable → Variable)
    (arguments : List String) : Shell :=
  s.withOptions "p" "" arguments fun given =>
    let s := s.withStatus 0
    if given.has 'p' || given.rest.isEmpty then s.listVariables front isMarked
    else given.rest.foldl (fun s a => s.declareOne mark a) s

def exportAll (s : Shell) : List String → Shell :=
  s.declare "export " (·.isExported) fun v => { v with isExported := true }

def protectAll (s : Shell) : List String → Shell :=
  s.declare "readonly " (·.isReadOnly) fun v => { v with isReadOnly := true }

/-- Remembers something that the function under way puts back. -/
def remember (s : Shell) (saved : Saved) : Shell :=
  match s.frames with
  | frame :: more => { s with frames := (saved :: frame) :: more }
  | [] => s

/-- Makes variables local to a function; a hyphen stands for the options. -/
def makeLocal (s : Shell) (arguments : List String) : Shell :=
  if s.frames.isEmpty then s.fail "not in a function"
  else
    arguments.foldl (fun s argument =>
      let name := (divided argument).1
      if argument == "-" then s.remember (.switches s.switches)
      else (s.remember (.held name (s.bindings.lookup name))).declareOne id argument) (s.withStatus 0)

/-- Puts back what a function has changed. -/
def putBack (s : Shell) (frame : List Saved) : Shell :=
  frame.foldl (fun s saved => match saved with
    | .switches letters => { s with switches := letters }
    | .held name old => { s with bindings := old.toList.map (name, ·) ++ s.bindings.filter (·.1 != name) }) s

/-- Forgets variables or functions. -/
def unset (s : Shell) (arguments : List String) : Shell :=
  s.withOptions "vf" "" arguments fun given =>
    let s := s.withStatus 0
    if given.has 'f' then { s with functions := s.functions.filter (! given.rest.contains ·.1) }
    else
      given.rest.foldl (fun s argument =>
        let name := (divided argument).1
        if s.halted.isSome then s
        else if !Script.isName name then s.fail (name ++ ": bad variable name")
        else if (s.bindings.lookup name).any (·.isReadOnly) then s.fail (name ++ ": is read only")
        else { s with bindings := s.bindings.filter (·.1 != name) }) s

/-! ## Arguments and options -/

def shift (s : Shell) (arguments : List String) : Shell :=
  s.withCount (arguments.headD "1") fun n =>
    if n > s.arguments.length then s.fail "can't shift that many"
    else { s with arguments := s.arguments.drop n, last := 0, scan := .start }

/-- Sets options and arguments, or shows the variables. -/
def set (s : Shell) (arguments : List String) : Shell :=
  if arguments.isEmpty then (s.listVariables "" (·.value.isSome)).withStatus 0
  else
    match s.readOptions arguments with
    | .ok (s, some arguments) => { s with arguments, last := 0, scan := .start }
    | .ok (s, none) => s.withStatus 0
    | .error message => s.fail message

/-- What looking for the next option finds: the letter, the value that belongs to it, how far the search has come,
and a complaint. -/
structure Found where
  letter : Char
  value : Option String
  scan : Scan
  complaint : Option String := none

/-- The letter at a place of an argument, if it is known: whether a value belongs to it. -/
def knows? (known : List Char) (letter : Char) : Option Bool :=
  match known.dropWhile (· != letter) with
  | _ :: ':' :: _ => if letter == ':' then none else some true
  | _ :: _ => if letter == ':' then none else some false
  | [] => none

/-- The option at a place of the argument in front of an index. -/
def optionAt (known : List Char) (arguments : List String) (index : Nat) (place : Nat) : Option Found := do
  let argument ← arguments[index - 2]?
  let letter ← argument.toList[place]?
  let isQuiet := known.head? == some ':'
  let behind := argument.toList.drop (place + 1)
  let here : Scan := { index, place := some (place + 1) }
  match knows? known letter with
  | none =>
    some (if isQuiet then { letter := '?', value := some letter.toString, scan := here }
      else { letter := '?', value := none, scan := here, complaint := some ("Illegal option -" ++ letter.toString) })
  | some false => some { letter, value := some "", scan := here }
  | some true =>
    if !behind.isEmpty then some { letter, value := some (.ofList behind), scan := { index, place := none } }
    else
      match arguments[index - 1]? with
      | some value => some { letter, value := some value, scan := { index := index + 1, place := none } }
      | none =>
        some (if isQuiet then { letter := ':', value := some letter.toString, scan := here }
          else { letter := '?', value := none, scan := here
                 complaint := some ("No arg for -" ++ letter.toString ++ " option") })

/-- The next option among arguments, or where the operands start. -/
def nextOption (known : List Char) (arguments : List String) (scan : Scan) : Found ⊕ Scan :=
  let started := scan.place.bind fun place => optionAt known arguments scan.index place
  match started, arguments[scan.index - 1]? with
  | some found, _ => .inl found
  | none, some argument =>
    if argument == "--" then .inr { index := scan.index + 1, place := none }
    else if argument.length < 2 || !argument.startsWith "-" then .inr { scan with place := none }
    else
      match optionAt known arguments (scan.index + 1) 1 with
      | some found => .inl found
      | none => .inr { scan with place := none }
  | none, none => .inr { scan with place := none }

/-- Reads the next option of the shell's arguments, or of others, into variables. -/
def getopts (s : Shell) (arguments : List String) : Shell :=
  s.withOptions "" "" arguments fun given =>
    match given.rest with
    | known :: name :: others =>
      let operands := if others.isEmpty then s.arguments else others
      let scan := if s.scan.index > operands.length + 1 then .start else s.scan
      let ended (s : Shell) (scan : Scan) (letter : Char) (status : Nat) : Shell :=
        let s := { (s.assign "OPTIND" (toString scan.index)) with scan }
        let s := s.assignTo name letter.toString
        if s.halted.isSome then s else s.withStatus status
      match nextOption known.toList operands scan with
      | .inr scan => ended s scan '?' 1
      | .inl found =>
        let s := match found.complaint with
          | some message => s.emit 2 (Text.latin1Bytes (message ++ "\n"))
          | none => s
        let s := match found.value with
          | some value => s.assign "OPTARG" value
          | none => { s with bindings := s.bindings.filter (·.1 != "OPTARG") }
        ended s found.scan found.letter 0
    | _ => s.fail "Usage: getopts optstring var [arg...]"

/-! ## Lines -/

/-- Characters of a line; those behind a backslash are marked. -/
abbrev Line := List (Char × Bool)

/-- The first line of a text, which backslashes may continue, and what follows it; none if the text ends before the
line does. -/
def lineAt (isRaw : Bool) (held : Line) : List Char → Line × Option (List Char)
  | [] => (held.reverse, none)
  | '\n' :: rest => (held.reverse, some rest)
  | '\\' :: c :: rest =>
    if isRaw then lineAt isRaw (('\\', false) :: held) (c :: rest)
    else if c == '\n' then lineAt isRaw held rest
    else lineAt isRaw ((c, true) :: held) rest
  | c :: rest => lineAt isRaw (if isRaw || c != '\\' then (c, false) :: held else held) rest

/-- What splits a line: blanks, and marks. -/
structure Separation where
  blank : Char × Bool → Bool
  mark : Char × Bool → Bool

/-- The separation by some characters. -/
def Separation.by (separators : List Char) : Separation :=
  let isBlank (c : Char) := c == ' ' || c == '\t' || c == '\n'
  { blank := fun (c, q) => !q && separators.contains c && isBlank c
    mark := fun (c, q) => !q && separators.contains c && !isBlank c }

namespace Separation

/-- The first word of a line, and what follows the separator behind it, if there is one. -/
def cut (d : Separation) (cs : Line) : Line × Option Line :=
  let word := cs.takeWhile fun c => !d.blank c && !d.mark c
  match cs.drop word.length with
  | [] => (word, none)
  | rest =>
    match rest.dropWhile d.blank with
    | c :: more => (word, some (if d.mark c then more.dropWhile d.blank else c :: more))
    | [] => (word, some [])

/-- The texts of some variables. The last takes what is left; a single word is taken without the separator behind
it. -/
def fields (d : Separation) : Nat → Line → List Line
  | 0, _ => []
  | 1, cs =>
    match d.cut cs with
    | (word, none) | (word, some []) => [word]
    | _ => [(cs.reverse.dropWhile d.blank).reverse]
  | n + 1, cs =>
    let (word, rest) := d.cut cs
    word :: d.fields n (rest.getD [])

end Separation

/-- Reads a line into variables. -/
def read (s : Shell) (arguments : List String) : Shell :=
  s.withOptions "r" "p" arguments fun given =>
    if given.rest.isEmpty then s.fail "arg count"
    else
      let bytes := (s.inputOf 0).toOption.getD .empty
      let (line, rest) := lineAt (given.has 'r') [] (Text.latin1 bytes).toList
      let s := s.past 0 (Text.latin1Bytes (.ofList (rest.getD [])))
      let d := Separation.by s.separators
      let texts := d.fields given.rest.length ((line.filter (·.1 != '\x00')).dropWhile d.blank)
      let s := (given.rest.zip texts).foldl (fun s (name, text) => s.assignTo name (.ofList (text.map (·.1)))) s
      if s.halted.isSome then s else s.withStatus (if rest.isSome then 0 else 1)

end Shell
end Galley
