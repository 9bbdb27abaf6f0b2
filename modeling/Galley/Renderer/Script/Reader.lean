import Galley.Renderer.Script

/-! The place in a text from which a script is read: what is left of the text, the line, and the aliases that words
may stand for. Below that, what can be found in the text without knowing what a word is. -/
namespace Galley
namespace Script

/-- Why a text is no script, and the line where that shows. -/
structure Flaw where
  line : Nat
  message : String

inductive Token where
  | word (w : Word)
  /-- A word with a meaning of its own. -/
  | reserved (text : String)
  | operator (text : String)
  /-- A redirection operator with the stream that it is for. -/
  | redirect (stream : Nat) (text : String)
  | newline
  | stop

/-- The place that a script is read from. -/
structure Reader where
  rest : List Char
  line : Nat
  /-- The lines of documents that were taken out of the text behind the line. -/
  taken : Nat
  /-- What is wrong with a document of the line, which shows where the line ends. -/
  spoiled : Option Flaw
  /-- The text is a document, in which quotes need not end. -/
  isDocument : Bool
  aliases : List (String × String)
  /-- The aliases whose texts are being read, with the length of what follows the text. -/
  opened : List (String × Nat)
  /-- The next word is looked up too if it starts behind an alias that ends with so much left. -/
  looksUp : Option Nat
  /-- A token that was read and given back. -/
  held : Option Token

namespace Reader

/-- The start of a text. -/
def start (text : List Char) (line : Nat) (aliases : List (String × String)) : Reader :=
  { rest := text, line, taken := 0, spoiled := none, isDocument := false, aliases, opened := [], looksUp := none
    held := none }

/-- The complaint that reading ends with here. -/
def flaw {α : Type} (r : Reader) (message : String) : Except Flaw α := .error { line := r.line, message }

/-- The place behind a text that was passed over. -/
def past (r : Reader) (passed rest : List Char) : Reader := { r with rest, line := r.line + passed.count '\n' }

/-- Gives a token back. -/
def giveBack (r : Reader) (t : Token) : Reader := { r with held := some t }

end Reader

/-! ## Words -/

/-- Puts a piece behind others, given in reverse; texts that are quoted alike become one. -/
def push (p : Piece) : List Piece → List Piece
  | .text s q :: rest =>
    match p with
    | .text t r => if q == r then .text (s ++ t) q :: rest else p :: .text s q :: rest
    | _ => p :: .text s q :: rest
  | rest => p :: rest

/-- A word that is one unquoted text. -/
def plain? : Word → Option String
  | [.text s false] => some s
  | _ => none

/-- The text of pieces that have only text. -/
def textOf (w : Word) : String :=
  String.join (w.map fun
    | .text s _ => s
    | _ => "")

/-- Parameters whose name is one mark. -/
def marks : List Char := ['?', '$', '#', '!', '@', '*', '-']

/-- The text in single quotes, and what follows the closing one. -/
def untilQuote (cs : List Char) : Option (List Char × List Char) :=
  match cs.dropWhile (· != '\'') with
  | _ :: rest => some (cs.takeWhile (· != '\''), rest)
  | [] => none

/-- The text between backquotes, in which a backslash quotes backquotes, dollar signs and backslashes, and inside
double quotes these too. -/
def backquoted (quoted : Bool) (held : List Char) : List Char → Option (List Char × List Char)
  | [] => none
  | '\x60' :: rest => some (held.reverse, rest)
  | '\\' :: c :: rest =>
    if ['\x60', '$', '\\'].contains c || (quoted && c == '"') then backquoted quoted (c :: held) rest
    else if c == '\n' then backquoted quoted held rest
    else backquoted quoted (c :: '\\' :: held) rest
  | c :: rest => backquoted quoted (c :: held) rest

/-- A character that ends a word. -/
def endsWord (c : Char) : Bool := [' ', '\t', '\n', ';', '&', '|', '<', '>', '(', ')'].contains c

/-- Where pieces end, and what counts among them. -/
inductive Scope where
  | word
  | quotes
  | braces (quoted : Bool)
  /-- A formula in which so many parentheses are open. -/
  | formula (depth : Nat)
  /-- The whole of a text, in which only what is to be expanded counts. -/
  | document
  /-- The word that a document ends at, in which nothing is expanded; part of it may be quoted. -/
  | delimiter (quoted : Bool)

namespace Scope

def isQuoted : Scope → Bool
  | word => false
  | quotes | document | formula _ => true
  | braces quoted | delimiter quoted => quoted

/-- The complaint about pieces that do not end, in a document or elsewhere. -/
def unended (isDocument : Bool) : Scope → String
  | braces false => "Missing '\x7d'"
  | formula _ => "Missing '))'"
  | _ => if isDocument then "Missing '\x7d'" else "Unterminated quoted string"

/-- A backslash makes the character behind it stand for itself; before others it is a character like any. -/
def escapes (scope : Scope) (c : Char) : Bool :=
  match scope with
  | word | delimiter false | braces false => true
  | quotes | delimiter true | formula _ => ['$', '\x60', '\\', '"'].contains c
  | document => ['$', '\x60', '\\'].contains c
  | braces true => ['$', '\x60', '\\', '"', '\x7d'].contains c

end Scope

/-! ## Parameters -/

namespace Reader

/-- The line of a place and what is left there, behind line breaks that a backslash takes away. -/
def joinedAt : Nat → List Char → Nat × List Char
  | line, '\\' :: '\n' :: rest => joinedAt (line + 1) rest
  | line, cs => (line, cs)

/-- The place behind line breaks that are taken away. -/
def joined (r : Reader) : Reader :=
  let (line, rest) := joinedAt r.line r.rest
  { r with line, rest }

/-- The place behind one character, and behind line breaks that are taken away. -/
def behind (r : Reader) (rest : List Char) : Reader := { r with rest }.joined

/-- The characters at the front of a text that pass a test, the line behind them and what is left there. -/
def spanAt (passes : Char → Bool) : Nat → List Char → List Char × Nat × List Char
  | line, '\\' :: '\n' :: rest => spanAt passes (line + 1) rest
  | line, c :: rest =>
    if passes c then
      let (cs, place) := spanAt passes line rest
      (c :: cs, place)
    else ([], line, c :: rest)
  | line, [] => ([], line, [])

/-- The characters here that pass a test, and the place behind them. -/
def span (r : Reader) (passes : Char → Bool) : String × Reader :=
  let (cs, line, rest) := spanAt passes r.line r.rest
  (.ofList cs, { r with line, rest })

/-- The name or the number here, and the place behind it. -/
def name? (r : Reader) : Option (String × Reader) :=
  match r.rest with
  | c :: _ =>
    if isNameStart c then some (r.span isNameChar)
    else if c.isDigit then some (r.span Char.isDigit)
    else none
  | [] => none

end Reader

/-- What stands in braces in front of another word: a parameter, how it is used, and whether an empty value counts as
a missing one. -/
structure Reference where
  name : String
  use : Use
  orEmpty : Bool

/-- The use that a mark stands for. -/
def useOf : Char → Use
  | '-' => .fallback
  | '=' => .stored
  | '?' => .demanded
  | '+' => .replaced
  | '\x7d' => .plain
  | _ => .misspelt

/-- A reference by the name of its parameter. A mark that is no use is passed over, as is a closing brace. -/
def referenceTo (name : String) (r : Reader) : Reference × Reader :=
  match r.rest with
  | ':' :: rest =>
    let r := r.behind rest
    let use := match useOf (r.rest.headD ':') with
      | .plain => .severed
      | use => use
    ({ name, use, orEmpty := true }, { r with rest := r.rest.drop 1 })
  | c :: rest =>
    if c == '#' || c == '%' then
      let r := r.behind rest
      let longest := r.rest.head? == some c
      let use := if c == '#' then Use.withoutFront longest else .withoutEnd longest
      ({ name, use, orEmpty := false }, if longest then { r with rest := r.rest.drop 1 } else r)
    else ({ name, use := useOf c, orEmpty := false }, { r with rest })
  | [] => ({ name, use := .misspelt, orEmpty := false }, r)

/-- A reference to the length of a parameter. -/
def lengthOf (name : String) (r : Reader) : Reference × Reader :=
  ({ name, use := if r.rest.head? == some '\x7d' then .length else .misspelt, orEmpty := false }, r)

/-- The reference behind an opening brace. A number sign is a name where none follows it, and a mark that is no name
is passed over. -/
def referenceAt (r : Reader) : Reference × Reader :=
  let none (r : Reader) : Reference × Reader := ({ name := "", use := .misspelt, orEmpty := false }, r)
  let r := r.joined
  match r.name?, r.rest with
  | some (name, r), _ => referenceTo name r
  | _, [] | _, '\x7d' :: _ => none r
  | _, c :: rest =>
    let r := r.behind rest
    if !marks.contains c then none r
    else if c != '#' then referenceTo c.toString r
    else
      match r.name?, r.rest with
      | some (name, r), _ => lengthOf name r
      | _, d :: rest =>
        let after := r.behind rest
        if d == '\x7d' || after.rest.head? != some '\x7d' then referenceTo "#" r
        else if marks.contains d then lengthOf d.toString after
        else none after
      | _, [] => referenceTo "#" r

/-! ## Tokens -/

/-- The operators, longer ones before their fronts. -/
def operators : List String := ["&&", "||", ";;", ";", "&", "|", "(", ")"]

def redirections : List String := ["<<-", "<<", ">>", ">&", "<&", ">|", "<>", ">", "<"]

namespace Reader

/-- The place behind a text, if that is here. -/
def behind? (r : Reader) : List Char → Option Reader
  | [] => some r
  | c :: cs =>
    match r.joined.rest with
    | d :: rest => if c == d then behind? { r.joined with rest } cs else none
    | [] => none

/-- The first of some texts that is here, and the place behind it. -/
def among? (r : Reader) (texts : List String) : Option (String × Reader) :=
  texts.findSome? fun text => (r.behind? text.toList).map (text, ·)

/-- The redirection operator here with its stream, and the place behind it. -/
def redirection? (r : Reader) : Option (Nat × String × Reader) := do
  let digit := (r.joined.rest.head?).filter Char.isDigit
  let (op, behind) ← (if digit.isSome then r.behind r.joined.rest.tail else r).among? redirections
  some ((digit.map fun c => c.toNat - 0x30).getD (if op.startsWith "<" then 0 else 1), op, behind)

end Reader

/-- A document: its text, the number of its lines with the last, and what follows it. -/
structure Document where
  text : List Char
  lines : Nat
  rest : List Char

/-- The line ends in a backslash that joins it to the next one. -/
def isJoined (line : List Char) : Bool := (line.reverse.takeWhile (· == '\\')).length % 2 == 1

/-- The lines up to one that is the delimiter. In a document that is expanded a line may be joined to the one
before, and then it is not looked at. -/
def documentAt (delimiter : List Char) (dropsTabs expands isJoint : Bool) : Nat → List Char → Document
  | 0, cs => { text := [], lines := 0, rest := cs }
  | _ + 1, [] => { text := [], lines := 0, rest := [] }
  | fuel + 1, cs =>
    let line := cs.takeWhile (· != '\n')
    let rest := cs.drop (line.length + 1)
    let line' := if dropsTabs && !isJoint then line.dropWhile (· == '\t') else line
    if line' == delimiter && !isJoint then { text := [], lines := 1, rest }
    else
      let ending := if line.length < cs.length then ['\n'] else []
      let more := documentAt delimiter dropsTabs expands (expands && isJoined line) fuel rest
      { more with text := line' ++ ending ++ more.text, lines := more.lines + ending.length }

end Script
end Galley
