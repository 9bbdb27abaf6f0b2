import Galley.Renderer.Script.Reader

/-! The grammar of scripts: words out of pieces, commands out of words, lists out of commands. Scripts stand inside
words too, so all of it is one recursion, over a number that no text of its length needs up. -/
namespace Galley
namespace Script

/-- How a token is named in a complaint. -/
def Token.label : Token → String
  | .newline => "newline"
  | .operator op => "\"" ++ op ++ "\""
  | .redirect _ _ => "redirection"
  | .stop => "end of file"
  | .word _ => "word"
  | .reserved s => "\"" ++ s ++ "\""

/-- The token is this reserved word, or this operator. -/
def Token.isReserved (text : String) : Token → Bool
  | .reserved s => s == text
  | _ => false

def Token.isOperator (text : String) : Token → Bool
  | .operator op => op == text
  | _ => false

/-- A list of commands ends in front of these. -/
def Token.endsList : Token → Bool
  | .stop => true
  | .operator op => op == ")" || op == ";;"
  | .reserved s => ["do", "done", "elif", "else", "esac", "fi", "then", "\x7d"].contains s
  | _ => false

/-- Skips blanks and a comment; the lines that are joined to others are counted. -/
def blanks (lines : Nat) : List Char → List Char × Nat
  | ' ' :: rest | '\t' :: rest => blanks lines rest
  | '\\' :: '\n' :: rest => blanks (lines + 1) rest
  | '#' :: rest => (rest.dropWhile (· != '\n'), lines)
  | cs => (cs, lines)

/-- The place behind blanks and comments. -/
def Reader.pastBlanks (r : Reader) : Reader :=
  if r.held.isSome then r
  else
    let (rest, lines) := blanks 0 r.rest
    { r with rest, line := r.line + lines }

/-- The text of the alias that a word stands for here, if it is not read from that text itself. -/
def Reader.alias? (r : Reader) (word : String) : Option String :=
  let isOpen := r.opened.any fun (name, left) => name == word && r.rest.length ≥ left
  if isOpen then none else r.aliases.lookup word

/-- Goes on with the text of an alias. Where that ends with a blank, the word behind it is looked up too. -/
def Reader.intoAlias (r : Reader) (word text : String) : Reader :=
  let left := r.rest.length
  let isLoose := text.toList.getLast?.any fun c => c == ' ' || c == '\t'
  { r with rest := text.toList ++ r.rest, opened := (word, left) :: r.opened
           looksUp := if isLoose then some left else r.looksUp }

/-- The assignment at the front of a word: the variable, and the rest of the word. -/
def assignment? : Word → Option (String × Word)
  | .text t false :: more =>
    let name := t.toList.takeWhile isNameChar
    match t.toList.drop name.length with
    | '=' :: rest =>
      let value := if rest.isEmpty then more else .text (.ofList rest) false :: more
      if name.head?.any isNameStart then some (.ofList name, value) else none
    | _ => none
  | _ => none

namespace Grammar

/-- What a token is looked at for: line breaks are skipped, words with a meaning of their own are told from others,
and aliases are replaced. -/
structure Expected where
  newlines : Bool := false
  reserved : Bool := false
  aliases : Bool := false

/-- What may stand where a command starts. -/
def Expected.command : Expected := { reserved := true, aliases := true }

/-- A command that may start on a later line. -/
def Expected.later : Expected := { newlines := true, reserved := true, aliases := true }

/-- How a list of commands ends. -/
inductive Extent where
  /-- With its line. -/
  | line
  /-- In front of a word or mark that closes it. -/
  | body
  /-- So too, and it may hold nothing. -/
  | loose
  deriving DecidableEq

/-- The complaint about a token, with what should stand in its place. -/
def unexpected {α : Type} (t : Token) (expected : Option String) (r : Reader) : Except Flaw α :=
  r.flaw (t.label ++ " unexpected" ++ (expected.map fun e => " (expecting " ++ e ++ ")").getD "")

/-- How a file is opened by an operator. -/
def opening : String → Opening
  | "<" => .read
  | ">>" => .append
  | ">|" => .write true
  | "<>" => .readWrite
  | _ => .write false

mutual

/-- The pieces of a scope, put in front of those held. -/
def pieces : Nat → Scope → List Piece → Reader → Except Flaw (List Piece × Reader)
  | 0, scope, _, r => r.flaw (scope.unended r.isDocument)
  | fuel + 1, scope, held, r =>
    match r.rest with
    | [] =>
      if scope matches .word | .document | .delimiter false then .ok (held, r)
      else { r with line := r.line + r.taken }.flaw (scope.unended r.isDocument)
    | c :: rest =>
      let behind := r.past [c] rest
      let plain (_ : Unit) := pieces fuel scope (push (.text c.toString scope.isQuoted) held) behind
      let isLiteral := scope matches .delimiter _
      let quotes := scope matches .word | .delimiter false | .braces false
      if c == '$' && !isLiteral then do
        let (p, r) ← dollar fuel scope.isQuoted behind
        pieces fuel scope (push p held) r
      else if c == '\x60' && !isLiteral then
        match backquoted scope.isQuoted [] rest with
        | none => { r with line := r.line + r.taken + rest.count '\n' }.flaw "EOF in backquote substitution"
        | some (text, after) => do
          let (script, _) ← list fuel .loose false .nothing (.start text 1 r.aliases)
          let passed := rest.take (rest.length - after.length)
          pieces fuel scope (push (.printed script scope.isQuoted) held) (r.past passed after)
      else if c == '\\' then
        match rest with
        | [] => pieces fuel scope (push (.text "\\" true) held) behind
        | '\n' :: after => pieces fuel scope held (r.past ['\n'] after)
        | e :: after =>
          let text := if scope.escapes e then e.toString else String.ofList ['\\', e]
          pieces fuel scope (push (.text text true) held) (r.past [e] after)
      else if c == '"' then
        match scope with
        | .quotes | .delimiter true => .ok (held, behind)
        | .document | .formula _ => plain ()
        | _ =>
          match rest with
          | '"' :: after => pieces fuel scope (push (.text "" true) held) { r with rest := after }
          | _ => do
            let (held, r) ← pieces fuel (if isLiteral then .delimiter true else .quotes) held behind
            pieces fuel scope held r
      else if c == '\'' && quotes then
        match untilQuote rest with
        | some (text, after) =>
          pieces fuel scope (push (.text (.ofList text) true) held) (r.past text after)
        | none => { r with line := r.line + rest.count '\n' }.flaw (Scope.unended r.isDocument .quotes)
      else
        match scope with
        | .word | .delimiter false => if endsWord c then .ok (held, r) else plain ()
        | .braces _ => if c == '\x7d' then .ok (held, behind) else plain ()
        | .formula depth =>
          let inside (depth : Nat) := pieces fuel (.formula depth) (push (.text c.toString true) held) behind
          if c == '(' then inside (depth + 1)
          else if c != ')' then plain ()
          else if depth > 0 then inside (depth - 1)
          else
            match behind.joined.rest with
            | ')' :: rest => .ok (held, { behind.joined with rest })
            | _ => plain ()
        | _ => plain ()

/-- The piece behind a dollar sign. -/
def dollar : Nat → Bool → Reader → Except Flaw (Piece × Reader)
  | 0, _, r => r.flaw "Bad substitution"
  | fuel + 1, quoted, r =>
    let r := r.joined
    match r.rest with
    | '\x7b' :: rest => do
      let (reference, r) := referenceAt { r with rest }
      match reference.use with
      | .plain => .ok (.value reference.name quoted, r)
      | use =>
        let (other, r) ← pieces fuel (.braces (quoted && !use.isTrim)) [] r
        .ok (.parameter reference.name use reference.orEmpty other.reverse quoted, r)
    | '(' :: rest => do
      let r := r.behind rest
      match r.rest with
      | '(' :: rest =>
        let (formula, r) ← pieces fuel (.formula 0) [] { r with rest }
        .ok (.computed formula.reverse quoted, r)
      | _ =>
        let inner := { r with held := none, taken := 0, spoiled := none, isDocument := false }
        let (script, after) ← list fuel .loose false .nothing inner
        let (t, after) ← next fuel {} after
        let taken := after.taken + r.taken
        if t.isOperator ")" then
          .ok (.printed script quoted, { after with taken, spoiled := r.spoiled, isDocument := r.isDocument })
        else unexpected t (some "\")\"") after
    | c :: rest =>
      if marks.contains c || c.isDigit then .ok (.value c.toString quoted, { r with rest })
      else if isNameStart c then
        let (name, r) := r.span isNameChar
        .ok (.value name quoted, r)
      else .ok (.text "$" quoted, r)
    | [] => .ok (.text "$" quoted, r)

/-- The token here, whatever it is. -/
def token : Nat → Reader → Except Flaw (Token × Reader)
  | 0, r => .ok (.stop, r)
  | fuel + 1, r =>
    match r.held, r.rest with
    | some t, _ => .ok (t, { r with held := none })
    | none, [] => .ok (.stop, r)
    | none, '\n' :: rest =>
      match r.spoiled with
      | some flaw => .error flaw
      | none => .ok (.newline, { r with rest, line := r.line + 1 + r.taken, taken := 0 })
    | none, _ =>
      match r.redirection?, r.among? operators with
      | some (stream, op, r), _ => .ok (.redirect stream op, if ["<", ">", "<<"].contains op then r.joined else r)
      | none, some (op, r) => .ok (.operator op, if ["&", "|", ";"].contains op then r.joined else r)
      | none, none => do
        let (found, r) ← pieces fuel .word [] r
        .ok (.word found.reverse, r)

/-- The next token, looked at for what is expected. -/
def next : Nat → Expected → Reader → Except Flaw (Token × Reader)
  | 0, _, r => .ok (.stop, r)
  | fuel + 1, e, r => do
    let here := r.pastBlanks
    let looksUp := r.looksUp.any fun left => r.rest.length > left && here.rest.length ≤ left
    let (t, r) ← token fuel { here with looksUp := if looksUp then none else here.looksUp }
    match t with
    | .newline => if e.newlines then next fuel e r else .ok (t, r)
    | .word w =>
      match plain? w with
      | none => .ok (t, r)
      | some s =>
        if e.reserved && reserved.contains s then .ok (.reserved s, r)
        else if e.aliases || looksUp then
          match r.alias? s with
          | some text => next fuel e (r.intoAlias s text)
          | none => .ok (t, r)
        else .ok (t, r)
    | t => .ok (t, r)

/-- The redirection behind its operator. -/
def redirection : Nat → Nat → String → Reader → Except Flaw (Redirection × Reader)
  | 0, _, _, r => unexpected .stop none r
  | fuel + 1, stream, op, r => do
    let r := r.pastBlanks
    if (op == "<<" || op == "<<-") && r.rest.head?.any (! endsWord ·) then
      let (found, r) ← pieces fuel (.delimiter false) [] r
      let expands := !found.any Piece.isQuoted
      let end? := (behindLine fuel r).toOption.map (·.rest)
      let (lines, below) := if expands then Reader.joinedAt 0 (end?.getD []) else (0, end?.getD [])
      let d := documentAt (textOf found.reverse).toList (op == "<<-") expands false (below.length + 1) below
      let line := r.rest.take (r.rest.length - (end?.getD []).length)
      let after := { r with rest := line ++ d.rest, taken := r.taken + lines + d.lines }
      let below (text : List Char) :=
        { Reader.start text (r.line + r.taken + lines + 1) r.aliases with
          isDocument := true, taken := d.lines - d.text.count '\n' }
      if expands then
        match pieces fuel .document [] (below d.text) with
        | .ok (text, _) => .ok (.document stream text.reverse, after)
        | .error flaw => .ok (.document stream [], { after with spoiled := some (r.spoiled.getD flaw) })
      else .ok (.document stream [.text (.ofList d.text) true], after)
    else
      let (t, r) ← next fuel {} r
      match t with
      | .word w =>
        if op == ">&" || op == "<&" then .ok (.copy stream w, r) else .ok (.file stream (opening op) w, r)
      | t => unexpected t none r

/-- The place behind the line. -/
def behindLine : Nat → Reader → Except Flaw Reader
  | 0, r => .ok r
  | fuel + 1, r => do
    let (t, r) ← next fuel {} r
    match t with
    | .newline | .stop => .ok r
    | _ => behindLine fuel r

/-- The redirections behind a command. A word with a meaning of its own is told only where there are none. -/
def redirected : Nat → Expected → Reader → Except Flaw (List Redirection × Reader)
  | 0, _, r => .ok ([], r)
  | fuel + 1, e, r => do
    let (t, r) ← next fuel e r
    match t with
    | .redirect stream op =>
      let (first, r) ← redirection fuel stream op r
      let (more, r) ← redirected fuel {} r
      .ok (first :: more, r)
    | t => .ok ([], r.giveBack t)

/-- The commands of a list behind those that stand before. -/
def list : Nat → Extent → Bool → Script → Reader → Except Flaw (Script × Reader)
  | 0, _, _, _, r => unexpected .stop none r
  | fuel + 1, extent, isStarted, before, r => do
    let (t, r) ← next fuel { Expected.command with newlines := extent != .line } r
    match t with
    | .newline => .ok (before, r)
    | .stop => .ok (before, r.giveBack .stop)
    | t =>
      let r := r.giveBack t
      let canEnd := extent == .loose || (extent == .body && isStarted)
      if canEnd && t.endsList then .ok (before, r)
      else
        let (one, r) ← conditional fuel {} r
        let (t, r) ← next fuel {} r
        let all := before.followedBy (if t.isOperator "&" then .aside one else one)
        match t with
        | .stop => .ok (all, r.giveBack .stop)
        | .newline => list fuel extent true all (r.giveBack .newline)
        | t =>
          if t.isOperator ";" || t.isOperator "&" then list fuel extent true all r
          else if extent == .line then unexpected t none r
          else .ok (all, r.giveBack t)

/-- A command with those that hang on its status. -/
def conditional : Nat → Expected → Reader → Except Flaw (Script × Reader)
  | 0, _, r => unexpected .stop none r
  | fuel + 1, e, r => do
    let (first, r) ← pipeline fuel e r
    conditionals fuel first r

/-- The commands that hang on the status of those before. -/
def conditionals : Nat → Script → Reader → Except Flaw (Script × Reader)
  | 0, first, r => .ok (first, r)
  | fuel + 1, first, r => do
    let (t, r) ← next fuel {} r
    if t.isOperator "&&" || t.isOperator "||" then
      let (second, r) ← pipeline fuel .later r
      conditionals fuel (.onlyIf (t.isOperator "&&") first second) r
    else .ok (first, r.giveBack t)

/-- A pipeline, perhaps negated. -/
def pipeline : Nat → Expected → Reader → Except Flaw (Script × Reader)
  | 0, _, r => unexpected .stop none r
  | fuel + 1, e, r => do
    let (t, r) ← next fuel e r
    if t.isReserved "!" then
      let (body, r) ← pipes fuel .command r
      .ok (.negated body, r)
    else pipes fuel {} (r.giveBack t)

/-- Commands with pipes between them. -/
def pipes : Nat → Expected → Reader → Except Flaw (Script × Reader)
  | 0, _, r => unexpected .stop none r
  | fuel + 1, e, r => do
    let (front, r) ← command fuel e r
    let (t, r) ← next fuel {} r
    if t.isOperator "|" then
      let (back, r) ← pipes fuel .later r
      .ok (.pipe front back, r)
    else .ok (front, r.giveBack t)

/-- A command. -/
def command : Nat → Expected → Reader → Except Flaw (Script × Reader)
  | 0, _, r => unexpected .stop none r
  | fuel + 1, e, r => do
    let line := r.line
    let (t, r) ← next fuel e r
    match t with
    | .word _ | .redirect _ _ => simple fuel r.line [] [] false (r.giveBack t)
    | .operator "(" =>
      let (body, r) ← list fuel .body false .nothing r
      closed fuel line (.operator ")") true body r
    | .reserved "\x7b" =>
      let (body, r) ← list fuel .body false .nothing r
      closed fuel line (.reserved "\x7d") false body r
    | .reserved "if" =>
      let (body, r) ← branches fuel r
      closed fuel line (.reserved "fi") false body r
    | .reserved "while" =>
      let (body, r) ← repeated fuel true r
      closed fuel line (.reserved "done") false body r
    | .reserved "until" =>
      let (body, r) ← repeated fuel false r
      closed fuel line (.reserved "done") false body r
    | .reserved "for" =>
      let (body, r) ← each fuel line r
      closed fuel line (.reserved "done") false body r
    | .reserved "case" =>
      let (body, r) ← selection fuel line r
      let (rs, r) ← redirected fuel .command r
      .ok (if rs.isEmpty then body else .group line body false rs, r)
    | t => unexpected t none r

/-- The end of a command that is closed by a token, and its redirections. -/
def closed : Nat → Nat → Token → Bool → Script → Reader → Except Flaw (Script × Reader)
  | 0, _, _, _, _, r => unexpected .stop none r
  | fuel + 1, line, ending, isSubshell, body, r => do
    let (t, r) ← next fuel {} r
    if t.label != ending.label then unexpected t (some ending.label) r
    else
      let (rs, r) ← redirected fuel .command r
      .ok (if rs.isEmpty && !isSubshell then body else .group line body isSubshell rs, r)

/-- Takes a reserved word that has to stand here. -/
def expect : Nat → Expected → String → Reader → Except Flaw (Unit × Reader)
  | 0, _, _, r => unexpected .stop none r
  | fuel + 1, e, text, r => do
    let (t, r) ← next fuel e r
    if t.isReserved text then .ok ((), r) else unexpected t (some (Token.label (.reserved text))) r

/-- The branches of a condition, up to the word that closes it. -/
def branches : Nat → Reader → Except Flaw (Script × Reader)
  | 0, r => unexpected .stop none r
  | fuel + 1, r => do
    let (condition, r) ← list fuel .body false .nothing r
    let ((), r) ← expect fuel {} "then" r
    let (yes, r) ← list fuel .body false .nothing r
    let (t, r) ← next fuel {} r
    if t.isReserved "elif" then
      let (no, r) ← branches fuel r
      .ok (.choice condition yes no, r)
    else if t.isReserved "else" then
      let (no, r) ← list fuel .body false .nothing r
      .ok (.choice condition yes no, r)
    else .ok (.choice condition yes .nothing, r.giveBack t)

/-- A loop, up to the word that closes it. -/
def repeated : Nat → Bool → Reader → Except Flaw (Script × Reader)
  | 0, _, r => unexpected .stop none r
  | fuel + 1, expected, r => do
    let (condition, r) ← list fuel .body false .nothing r
    let ((), r) ← expect fuel {} "do" r
    let (body, r) ← list fuel .body false .nothing r
    .ok (.loop expected condition body, r)

/-- A loop over words, up to the word that closes it. -/
def each : Nat → Nat → Reader → Except Flaw (Script × Reader)
  | 0, _, r => unexpected .stop none r
  | fuel + 1, line, r => do
    let (t, r) ← next fuel {} r
    let name? := match t with
      | .word w => (plain? w).filter isName
      | _ => none
    match name? with
    | none => r.flaw "Bad for loop variable"
    | some name =>
      let (t, r) ← next fuel .later r
      let (ws, r) ← if t.isReserved "in" then words fuel r
        else .ok ([[Piece.value "@" true]], if t.isOperator ";" then r else r.giveBack t)
      let ((), r) ← expect fuel .later "do" r
      let (body, r) ← list fuel .body false .nothing r
      .ok (.each line name ws body, r)

/-- The words up to the end of their line. -/
def words : Nat → Reader → Except Flaw (List Word × Reader)
  | 0, r => unexpected .stop none r
  | fuel + 1, r => do
    let (t, r) ← next fuel {} r
    match t with
    | .word w =>
      let (more, r) ← words fuel r
      .ok (w :: more, r)
    | .newline => .ok ([], r)
    | t => if t.isOperator ";" then .ok ([], r) else unexpected t none r

/-- A selection. -/
def selection : Nat → Nat → Reader → Except Flaw (Script × Reader)
  | 0, _, r => unexpected .stop none r
  | fuel + 1, line, r => do
    let (t, r) ← next fuel {} r
    match t with
    | .word subject =>
      let ((), r) ← expect fuel .later "in" r
      let (found, r) ← arms fuel r
      .ok (.selection line subject found, r)
    | t => unexpected t (some "word") r

/-- The arms of a selection, with the word that closes it. -/
def arms : Nat → Reader → Except Flaw (List (List Word × Script) × Reader)
  | 0, r => unexpected .stop none r
  | fuel + 1, r => do
    let (t, r) ← next fuel { newlines := true, reserved := true } r
    if t.isReserved "esac" then .ok ([], r)
    else
      let (t, r) ← if t.isOperator "(" then next fuel {} r else .ok (t, r)
      let (patterns, r) ← alternatives fuel t r
      let (body, r) ← list fuel .loose false .nothing r
      let (t, r) ← next fuel { newlines := true, reserved := true } r
      if t.isReserved "esac" then .ok ([(patterns, body)], r)
      else if t.isOperator ";;" then
        let (more, r) ← arms fuel r
        .ok ((patterns, body) :: more, r)
      else unexpected t (some "\";;\"") r

/-- The patterns of an arm, of which the first has been read, up to the parenthesis behind them. -/
def alternatives : Nat → Token → Reader → Except Flaw (List Word × Reader)
  | 0, _, r => unexpected .stop none r
  | fuel + 1, first, r => do
    let pattern : Word := match first with
      | .word w => w
      | .reserved s => [.text s false]
      | _ => []
    let (t, r) ← next fuel {} r
    if t.isOperator "|" then
      let (t, r) ← next fuel {} r
      let (more, r) ← alternatives fuel t r
      .ok (pattern :: more, r)
    else if t.isOperator ")" then .ok ([pattern], r)
    else unexpected t (some "\")\"") r

/-- A simple command: the words and redirections behind those found, or the function that it turns out to be. -/
def simple : Nat → Nat → List Word → List Redirection → Bool → Reader → Except Flaw (Script × Reader)
  | 0, _, _, _, _, r => unexpected .stop none r
  | fuel + 1, line, ws, rs, isNamed, r => do
    let (t, r) ← next fuel { aliases := !isNamed } r
    match t with
    | .word w => simple fuel line (ws ++ [w]) rs (isNamed || (assignment? w).isNone) r
    | .redirect stream op =>
      let (one, r) ← redirection fuel stream op r
      simple fuel line ws (rs ++ [one]) isNamed r
    | t =>
      match ws, t.isOperator "(" && isNamed && rs.isEmpty with
      | [name], true =>
        let (t, r) ← next fuel {} r
        if !t.isOperator ")" then unexpected t (some "\")\"") r
        else
          match (plain? name).filter fun s => isName s && !special.contains s with
          | none => r.flaw "Bad function name"
          | some name =>
            let (body, r) ← command fuel .later r
            .ok (.definition name body, r)
      | _, _ => .ok (.simple line ws rs, r.giveBack t)

end

/-- More than any part of a text of some length needs. -/
def fuelFor (r : Reader) : Nat :=
  40 * (r.rest.length + (r.aliases.map (·.2.length)).foldl (· + ·) 0 * 40) + 400

end Grammar

/-- Reads the next line of commands; none at the end of the text. -/
def Reader.nextLine (r : Reader) : Except Flaw (Option Script × Reader) := do
  let (script, r) ← Grammar.list (Grammar.fuelFor r) .line false .nothing r
  match script, r.held with
  | .nothing, some .stop => .ok (none, r)
  | script, _ => .ok (some script, r)

end Script
end Galley
