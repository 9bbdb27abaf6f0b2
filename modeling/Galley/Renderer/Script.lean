/-! Shell scripts: their words, made of pieces that are expanded when a command runs, and their commands. A text in
a script is a sequence of bytes, each of which is held as the character of the same number. -/
namespace Galley

/-- What a parameter stands for besides its value: its length; another word where it is missing, which may be stored
in it or be the complaint; another word where it is there; the value without a front or an end that match; or the value
with another word behind it, with which the whole that they are in ends. -/
inductive Use where
  | plain
  | length
  | fallback
  | stored
  | demanded
  | replaced
  | withoutFront (longest : Bool)
  | withoutEnd (longest : Bool)
  | severed
  /-- No use that there is. -/
  | misspelt

/-- The word behind the name belongs to a pattern, in which the quotes around do not count. -/
def Use.isTrim : Use → Bool
  | .withoutFront _ | .withoutEnd _ => true
  | _ => false

/-- How a file is opened for a stream. -/
inductive Opening where
  | read
  /-- What it holds is lost, perhaps even if the shell was told to keep files. -/
  | write (always : Bool)
  | append
  | readWrite

mutual

/-- A piece of a word. What stands in quotes is not split into fields. -/
inductive Piece where
  | text (s : String) (quoted : Bool)
  /-- A parameter, how it is used with another word, and whether an empty value counts as a missing one. -/
  | parameter (name : String) (use : Use) (orEmpty : Bool) (other : List Piece) (quoted : Bool)
  /-- What another script prints. -/
  | printed (script : Script) (quoted : Bool)
  /-- The value of a formula. -/
  | computed (formula : List Piece) (quoted : Bool)

/-- What happens to a stream of a command. -/
inductive Redirection where
  | file (stream : Nat) (opening : Opening) (path : List Piece)
  /-- The stream leads to a text. -/
  | document (stream : Nat) (text : List Piece)
  /-- The stream leads where another does, or nowhere. -/
  | copy (stream : Nat) (source : List Piece)

inductive Script where
  | nothing
  | simple (line : Nat) (words : List (List Piece)) (redirections : List Redirection)
  | group (line : Nat) (body : Script) (isSubshell : Bool) (redirections : List Redirection)
  | pipe (front back : Script)
  | inTurn (first second : Script)
  /-- It runs beside what follows it. -/
  | aside (body : Script)
  /-- The second runs if the status of the first is zero, or is not. -/
  | onlyIf (expected : Bool) (first second : Script)
  | negated (body : Script)
  | choice (condition yes no : Script)
  /-- The first arm with a pattern that matches. -/
  | selection (line : Nat) (subject : List Piece) (arms : List (List (List Piece) × Script))
  /-- The body is repeated as long as the condition is as expected. -/
  | loop (expected : Bool) (condition body : Script)
  | each (line : Nat) (name : String) (words : List (List Piece)) (body : Script)
  | definition (name : String) (body : Script)

end

abbrev Word := List Piece

/-- The value of a parameter as it is. -/
def Piece.value (name : String) (quoted : Bool) : Piece := .parameter name .plain false [] quoted

/-- Nothing is made of what stands behind the piece. -/
def Piece.severs : Piece → Bool
  | parameter _ .severed _ _ _ => true
  | _ => false

/-- A script runs where the piece stands. -/
def Piece.isPrinted : Piece → Bool
  | printed _ _ => true
  | _ => false

/-- What is quoted in the piece stands for itself. -/
def Piece.isQuoted : Piece → Bool
  | text _ quoted | parameter _ _ _ _ quoted | printed _ quoted | computed _ quoted => quoted

namespace Script

def isNameStart (c : Char) : Bool := c.isAlpha || c == '_'
def isNameChar (c : Char) : Bool := c.isAlphanum || c == '_'

/-- The text is a name that a variable can have. -/
def isName (text : String) : Bool := text.toList.head?.any isNameStart && text.toList.all isNameChar

/-- The words that have a meaning where a command starts. -/
def reserved : List String :=
  ["!", "case", "do", "done", "elif", "else", "esac", "fi", "for", "if", "in", "then", "until", "while", "\x7b",
    "\x7d"]

/-- The commands of the shell whose failure ends it, and which functions cannot stand in for. -/
def special : List String :=
  [".", ":", "break", "continue", "eval", "exec", "exit", "export", "local", "readonly", "return", "set", "shift",
    "times", "trap", "unset"]

/-- Two scripts in turn, of which the first may do nothing. -/
def followedBy : Script → Script → Script
  | nothing, b => b
  | a, b => .inTurn a b

end Script
end Galley
