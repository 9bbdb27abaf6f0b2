import Galley.Renderer.Launch

/-! Running a script: each kind of command as a function from a shell to a shell. -/
namespace Galley
namespace Shell

/-- Ends a strict shell whose last command has failed, unless its status is asked for. -/
def checked (s : Shell) : Shell :=
  if s.has 'e' && !s.isGuarded && s.last != 0 && s.halted.isNone then { s with halted := some (.exit s.last) } else s

/-- Runs something whose status is asked for. -/
def guarded (s : Shell) (run : Shell → Shell) : Shell :=
  { run { s with isGuarded := true } with isGuarded := s.isGuarded }

/-- Runs something whose status nobody asks for. -/
def unguarded (s : Shell) (run : Shell → Shell) : Shell :=
  { run { s with isGuarded := false } with isGuarded := s.isGuarded }

/-- What a loop does after a part of it: it ends with this shell, or goes on with it. -/
inductive Round where
  | ends (s : Shell)
  | goesOn (s : Shell)

/-- What becomes of a loop after its condition or its body. -/
def round (s : Shell) : Round :=
  match s.halted with
  | none => .goesOn s
  | some (.leave (n + 1)) => .ends { s with halted := if n == 0 then none else some (.leave n) }
  | some (.next (n + 2)) => .ends { s with halted := some (.next (n + 1)) }
  | some (.next _) => .goesOn { s with halted := none }
  | some _ => .ends s

/-- How many functions may be under way. -/
def maxFunctions : Nat := 1000

/-- The shell when it is about to run a script in another one: it looks for the program that the script names. -/
def prepared (s : Shell) : Script → Shell
  | .simple _ ([.text name false] :: _) _ =>
    if Script.isName name && !isOwn name && (s.functions.lookup name).isNone
        && (Tool.search s.world (wide name)).toOption.isSome then s.withRemembered name
    else s
  | _ => s

/-- The first arm of a selection with a pattern that matches. -/
def firstArm (run : Substitute) (s : Shell) (text : List Char) : List (List Word × Script) → Shell × Option Script
  | [] => (s, none)
  | (patterns, body) :: rest =>
    let (s, isMatch) := patterns.foldl (fun (s, isMatch) w =>
      if isMatch || s.halted.isSome then (s, isMatch)
      else
        let (s, p) := s.expandPattern run w
        (s, Pattern.fits p text)) (s, false)
    if isMatch then (s, some body) else firstArm run s text rest

/-! ## Parts of simple commands -/

/-- A command without the words that keep functions from standing in for it, and whether there were any. -/
def bare : List String → List String × Bool
  | "command" :: "--" :: name :: rest => ((bare (name :: rest)).1, true)
  | "command" :: "-p" :: name :: rest => if name.startsWith "-" then ("command" :: "-p" :: name :: rest, false)
    else ((bare (name :: rest)).1, true)
  | "command" :: name :: rest => if name.startsWith "-" then ("command" :: name :: rest, false)
    else ((bare (name :: rest)).1, true)
  | words => (words, false)

/-- Sets the variables in front of a command in turn. They are exported for a command that is not special. -/
def setAll (run : Substitute) (exports : Bool) (s : Shell) (values : List String) :
    List (String × Word) → Shell × List String
  | [] => (s, values)
  | (name, w) :: more =>
    if s.halted.isSome then (s, values)
    else
      let (s, text) := s.expandWhole run true w
      let s := if s.halted.isSome then s else s.assign name text
      let s := if exports && s.halted.isNone then s.modify name fun v => { v with isExported := true } else s
      setAll run exports s (values ++ [name ++ "=" ++ text]) more

/-- Shows a command on the error stream of another shell, behind the text that a variable gives. -/
def traced (run : Substitute) (s outer : Shell) (words : List String) : Shell :=
  if !s.has 'x' then s
  else
    let text := ((s.bound? "PS4").getD "").toList
    let quiet := s.withSwitch false 'x'
    let (after, front) := match Script.Grammar.pieces (40 * text.length + 400) .document [] (.start text 1 []) with
      | .ok (pieces, _) =>
        let (s, f) := expandPieces run .nothing .never quiet .none pieces.reverse
        (s.withSwitch true 'x', f.whole.text)
      | .error _ => (s, .ofList text)
    let line := front ++ String.intercalate " " words ++ "\n"
    { { after with streams := outer.streams }.emit 2 (Text.latin1Bytes line) with streams := s.streams }

/-- Runs a command of the shell that runs no others. What goes wrong in it ends the shell only if it is special. -/
def runOwn (s : Shell) (name : String) (isSpecial : Bool) (carryOut : Shell → List String → Shell)
    (arguments : List String) : Shell :=
  let after := carryOut { s with label := name ++ ": ", isCut := false } arguments
  let after := if after.isCut then (after.complain (name ++ ": I/O error")).withStatus (after.last ||| 1) else after
  let halted := if after.halted == some .failure && !isSpecial then none else after.halted
  { after with label := s.label, isCut := false, halted }

/-- The complaint about a program that cannot be run; only a file that is there is something that must not be run. -/
def missing (s : Shell) (front name : String) (e : IoError) : Shell :=
  let isThere := name.contains '/' || s.searchPath.any fun directory =>
    ((s.disk.find (Disk.join directory (wide name))).toOption.any (·.isFile))
  let wording := match e with
    | .permissionDenied => "Permission denied"
    | .nameTooLong => Job.wording e
    | _ => "not found"
  (s.complain (front ++ name ++ ": " ++ wording)).withStatus (if e == .permissionDenied && isThere then 126 else 127)

/-- The text of a file that is run in the shell itself. Without a slash it is looked for where programs are. -/
def sourced (s : Shell) (file : String) : Except String String := do
  let path ← if file.contains '/' then .ok file
    else
      match (s.searchPath.map (Disk.join · (wide file))).find? fun p => (s.disk.find p).toOption.any (·.isFile) with
      | some path => .ok (narrow path)
      | none => .error (file ++ ": not found")
  let (opened, n) ← s.openFile .read path
  let bytes := ((opened.handles[n]?).map fun h => h.content opened.disk).getD (.ok .empty)
  .ok (Text.latin1 (bytes.toOption.getD .empty))

mutual

/-- Runs the text of a script, line by line: what one line does may change how the next is read. -/
def runLines : Nat → Bool → Script.Reader → Shell → Shell
  | 0, _, _, s => s
  | fuel + 1, isShown, r, s =>
    match Script.Reader.nextLine { r with aliases := s.aliases } with
    | .error flaw => { s with line := flaw.line }.fail ("Syntax error: " ++ flaw.message)
    | .ok (none, _) => s
    | .ok (some script, after) =>
      let read := r.rest.take (r.rest.length - after.rest.length)
      let s := if isShown && s.has 'v' then s.emit 2 (Text.latin1Bytes (.ofList read)) else s
      let s := run fuel script { s with reached := after.line }
      if s.halted.isSome then s else runLines fuel isShown after s

/-- Runs the text of a script from its first line. -/
def runText : Nat → Bool → String → Shell → Shell
  | 0, _, _, s => s
  | fuel + 1, isShown, text, s =>
    { runLines fuel isShown (.start text.toList 1 s.aliases) s with reached := s.reached }

/-- Ends a shell: what is to be run at its end is run. -/
def finish : Nat → Shell → Shell
  | 0, s => s
  | fuel + 1, s =>
    match s.status, s.traps.lookup 0 with
    | .code n, some action =>
      let s := { s with traps := s.traps.filter (·.1 != 0), halted := none, last := n, label := "" }
      let after := runText fuel false action s
      match after.halted with
      | some (.exit _) | some (.signal _) | some .failure => after
      | _ => { after with halted := some (.exit n) }
    | _, _ => s

/-- Answers the signals that have come. -/
def answer : Nat → Shell → Shell
  | 0, s => s
  | fuel + 1, s =>
    match s.pending with
    | [] => s
    | n :: rest =>
      let s := { s with pending := rest }
      let after := match s.traps.lookup n with
        | some action => s.unguarded (runText fuel false action)
        | none => s
      answer fuel (if after.halted.isSome then after else after.withStatus s.last)

/-- Repeats the body of a loop; `result` is the status that the loop leaves. -/
def repeated : Nat → Bool → Script → Script → Nat → Shell → Shell
  | 0, _, _, _, _, s => s
  | fuel + 1, expected, condition, body, result, s =>
    match (s.guarded (run fuel condition)).round with
    | .ends s => s
    | .goesOn s =>
      if (s.last == 0) == expected then
        match (run fuel body s).round with
        | .ends s => s
        | .goesOn s => repeated fuel expected condition body s.last s
      else s.withStatus result

/-- Runs the body of a loop for each of some texts. -/
def overTexts : Nat → String → Script → List String → Shell → Shell
  | 0, _, _, _, s => s
  | _ + 1, _, _, [], s => s
  | fuel + 1, name, body, text :: rest, s =>
    let s := s.assign name text
    if s.halted.isSome then s
    else
      match (run fuel body s).round with
      | .ends s => s
      | .goesOn s => overTexts fuel name body rest s

/-- Runs a part of a command, which may be missing. -/
def runBody : Nat → Script → Shell → Shell
  | 0, _, s => s
  | _ + 1, .nothing, s => s.withStatus 0
  | fuel + 1, body, s => run fuel body s

/-- Runs a function. What it made local is put back when it ends. -/
def runFunction : Nat → Script → List String → Shell → Shell
  | 0, _, _, s => s
  | fuel + 1, body, arguments, s =>
    if maxFunctions ≤ s.frames.length then s.fail "Maximum function recursion depth (1000) reached"
    else
      let after := run fuel body { s with arguments, scan := .start, frames := [] :: s.frames, loops := 0 }
      let after := after.putBack (after.frames.headD [])
      { after with arguments := s.arguments, scan := s.scan, frames := s.frames, loops := s.loops
                   halted := if after.halted == some .back then none else after.halted }

/-- Runs a program. It takes the place of the shell if nothing is left to do behind it. -/
def runProgram : Nat → Bool → String → List String → Shell → Shell
  | 0, _, _, _, s => s
  | fuel + 1, isLast, name, arguments, s =>
    match (if name.isEmpty then .error .permissionDenied else Tool.search s.world (wide name)) with
    | .error e =>
      let s := s.missing (if isLast then "exec: " else "") name e
      if isLast then { s with halted := some (.exit s.last) } else s
    | .ok "sh" =>
      let s := if isLast then s else s.withRemembered name
      let c := s.child name
      let c := if isLast then { c with number := s.number, ancestors := s.ancestors } else c
      let c := match c.launch arguments with
        | .error (n, message) =>
          { c.emit 2 (Text.latin1Bytes (name ++ ": " ++ message ++ "\n")) with halted := some (.exit n) }
        | .ok l => finish fuel (runLines fuel l.isShown (.start l.text.toList 1 []) l.shell)
      if isLast then
        let halted := match c.status with
          | .code n => Halt.exit n
          | .signal n => .signal n
        { s.after c with halted := some halted, traps := [] }
      else s.afterChild c
    | .ok base =>
      match Tool.named? base with
      | some tool =>
        let s := s.runTool name base tool arguments
        if isLast then { s with halted := some (.exit s.last), traps := [] } else s.withRemembered name
      | none => s

/-- Runs a command that has been expanded. -/
def runCommand : Nat → Bool → List String → Shell → Shell
  | 0, _, _, s => s
  | _ + 1, _, [], s => s.withStatus 0
  | fuel + 1, isBare, name :: arguments, s =>
    let isSpecial := Script.special.contains name && !isBare
    let caught (s : Shell) : Shell :=
      if s.halted == some .failure && !isSpecial then { s with halted := none } else s
    match (if isBare then none else s.functions.lookup name) with
    | some body => runFunction fuel body arguments s
    | none =>
      match name, arguments with
      | "exec", [] => s.withStatus 0
      | "exec", program :: arguments => runProgram fuel true program arguments s
      | "eval", arguments =>
        let inner := { s.withStatus 0 with label := "eval: " }
        caught { runText fuel false (String.intercalate " " arguments) inner with label := s.label }
      | ".", arguments =>
        let failed (message : String) : Shell := caught { { s with label := ".: " }.fail message with label := s.label }
        match (options [] [] arguments).map (·.rest) with
        | .error message => failed message
        | .ok [] => s.withStatus 0
        | .ok (file :: _) =>
          match s.sourced file with
          | .error message => failed message
          | .ok text =>
            let inner := { s.withStatus 0 with label := file ++ ": " }
            let after := inner.unguarded (runText fuel true text)
            caught { after with label := s.label, halted := if after.halted == some .back then none else after.halted }
      | "command", arguments =>
        s.runOwn name false (fun s arguments =>
          s.withOptions "pvV" "" arguments fun given =>
            match given.rest with
            | word :: _ =>
              if given.has 'V' then s.describe word else if given.has 'v' then s.resolve word else s.withStatus 0
            | [] => s.withStatus 0) arguments
      | name, arguments =>
        match builtin? name with
        | some carryOut => s.runOwn name isSpecial carryOut arguments
        | none => runProgram fuel false name arguments s

/-- Runs a simple command: its words are expanded, its streams are led, its variables are set, and it is carried
out. -/
def runSimple : Nat → List Word → List Redirection → Shell → Shell
  | 0, _, _, s => s
  | fuel + 1, words, rs, s =>
    let substitute : Substitute := fun s script =>
      let (after, bytes) := s.captured fun inner => finish fuel (inner.unguarded (run fuel script))
      ({ after with answered := after.last, last := s.last }, capturedText bytes)
    let assignments := ((words.map Script.assignment?).takeWhile Option.isSome).filterMap id
    let (s, fields) := { s with answered := 0 }.expandWords substitute [] (words.drop assignments.length)
    let (s, leads) := if s.halted.isSome then (s, []) else s.expandRedirections substitute [] rs
    let (command, isBare) := bare fields
    let isSpecial := !isBare && command.head?.any Script.special.contains
    if s.halted.isSome then s
    else
      match s.leadAll substitute leads with
      | (inner, false) => (inner.misled isSpecial).restored s leads
      | (inner, true) =>
        let isSet := isSpecial || command.isEmpty
        let (ready, values) := inner.setAll substitute (!isSet) [] assignments
        if ready.halted.isSome then ready.restored s leads
        else
          let ready := ready.traced substitute s (values ++ fields)
          let after := if fields.isEmpty then ready.withStatus ready.answered
            else runCommand fuel isBare command ready
          let old := if isSet then [] else assignments.map fun a => Saved.held a.1 (s.bindings.lookup a.1)
          let after := after.putBack old
          if command == ["exec"] && after.halted.isNone then after else after.restored s leads

/-- Runs a script. -/
def run : Nat → Script → Shell → Shell
  | 0, _, s => s
  | fuel + 1, script, s =>
    let substitute : Substitute := fun s script =>
      let (after, bytes) := s.captured fun inner => finish fuel (inner.unguarded (run fuel script))
      ({ after with answered := after.last, last := s.last }, capturedText bytes)
    let looping (s : Shell) (body : Shell → Shell) : Shell :=
      { body { s with loops := s.loops + 1 } with loops := s.loops }
    if s.halted.isSome || s.has 'n' then s
    else
      match script with
      | .nothing => s
      | .inTurn a b => run fuel b (run fuel a s)
      | .onlyIf expected a b =>
        let s := s.guarded (run fuel a)
        if (s.last == 0) == expected then run fuel b s else s
      | .negated a =>
        let s := s.guarded (run fuel a)
        if s.halted.isSome then s else s.withStatus (if s.last == 0 then 1 else 0)
      | .pipe a b =>
        let (s, bytes) := (s.prepared a).captured fun inner => finish fuel (run fuel a inner)
        let s := s.prepared b
        if s.halted.isSome then s
        else
          let (inner, n) := s.fork.withHandle (.source bytes)
          (answer fuel (s.rejoin (finish fuel (run fuel b (inner.withStream 0 n))))).checked
      | .aside a =>
        let (inner, n) := s.fork.withHandle (.device .null)
        let inner := finish fuel (run fuel a (inner.withStream 0 n))
        let s := (s.after inner).withStatus 0
        { s with jobs := (asideNumber + s.jobs.length, inner.status) :: s.jobs }
      | .group line a isSubshell rs =>
        let s := { s with line }
        let s := s.redirected substitute rs fun s =>
          if isSubshell then s.rejoin (finish fuel (run fuel a s.fork)) else run fuel a s
        (answer fuel s).checked
      | .choice c yes no =>
        let s := s.guarded (run fuel c)
        if s.halted.isSome then s
        else if s.last == 0 then runBody fuel yes s
        else runBody fuel no s
      | .selection line subject arms =>
        let (s, text) := { s with line }.expandWhole substitute false subject
        match s.firstArm substitute text.toList arms with
        | (s, some body) => runBody fuel body s
        | (s, none) => if s.halted.isSome then s else s.withStatus 0
      | .loop expected c body => looping s (repeated fuel expected c body 0)
      | .each line name words body =>
        let (s, fields) := { s with line }.expandWords substitute [] words
        if s.halted.isSome then s
        else if fields.isEmpty then s.withStatus 0
        else looping s (overTexts fuel name body fields)
      | .definition name body =>
        { s with functions := (name, body) :: s.functions.filter (·.1 != name), last := 0 }
      | .simple line words rs => (answer fuel (runSimple fuel words rs { s with line })).checked

end

/-- How many steps deep a script may go. -/
def depth : Nat := 100000

/-- The shell as a program. -/
def tool : Tool := fun j =>
  let environment := j.environment.map fun (name, value) => (narrow name, narrow value)
  let s := (start (narrow j.name) [] j.disk environment).withPipes (.source j.input)
  match s.launch (j.arguments.map narrow) with
  | .error (n, message) => { j.refuses message with status := .code n }
  | .ok l =>
    let s := finish depth (runLines depth l.isShown (.start l.text.toList 1 []) l.shell)
    let sent (n : Nat) : ByteArray := match s.handles[n]? with
      | some (.sink bytes) => bytes
      | _ => .empty
    { written := [.output (sent 1), .complaint (sent 2)], status := s.status
      rest := ((s.handles[0]?).map fun h => (h.content s.disk).toOption.getD .empty).getD .empty
      disk := { s.disk with here := j.disk.here } }

end Shell
end Galley
