/-! The options of a program's command line. An option is a letter behind a hyphen, several of which may share one
hyphen, or a long name behind two, which may be cut short as long as it stays clear which is meant. Most programs let
options and operands be mixed, and others have options in front only; after `--` there are only operands. -/
namespace Galley
namespace Tool

/-- An option that a program knows. One without a long name has an empty one. -/
structure Choice where
  letter : Char
  name : String := ""
  /-- The letter can be written too, and does not just tell the option from others. -/
  isShort : Bool := true
  /-- A value belongs to it. -/
  takes : Bool := false

/-- The choice that a long name means, or the complaint about it. -/
def choiceOf (known : List Choice) (name : String) : Except String Choice :=
  let named := known.filter (! ·.name.isEmpty)
  match named.filter (·.name == name), named.filter (·.name.startsWith name) with
  | c :: _, _ | [], [c] => .ok c
  | [], [] => .error ("unrecognized option '--" ++ name ++ "'")
  | [], several =>
    .error ("option '--" ++ name ++ "' is ambiguous; possibilities:" ++
      String.join (several.map fun c => " '--" ++ c.name ++ "'"))

/-- What reading options came to: those read, and the arguments left or the complaint that ended it. -/
structure Chosen where
  given : List (Char × String)
  rest : Except String (List String)

namespace Chosen

def has (c : Chosen) (letter : Char) : Bool := c.given.any (·.1 == letter)

/-- Options read before others. -/
def after (c : Chosen) (given : List (Char × String)) : Chosen := { c with given := given ++ c.given }

/-- Reads on with the arguments left. -/
def andThen (c : Chosen) (more : List String → Chosen) : Chosen :=
  match c.rest with
  | .ok rest => (more rest).after c.given
  | .error _ => c

end Chosen

/-- The first byte of a character, which is all that a complaint shows of it. By itself it may be no text. -/
def firstByte (c : Char) : String := if c.toNat < 0x80 then c.toString else "\uFFFD"

/-- Reads the letters behind one hyphen; the value of the last may be the next argument. -/
def readLetters (known : List Choice) : List Char → List String → Chosen
  | [], rest => { given := [], rest := .ok rest }
  | c :: cs, rest =>
    match known.find? fun k => k.isShort && k.letter == c with
    | none => { given := [], rest := .error ("invalid option -- '" ++ firstByte c ++ "'") }
    | some k =>
      if k.takes then
        match cs, rest with
        | [], [] => { given := [], rest := .error ("option requires an argument -- '" ++ c.toString ++ "'") }
        | [], value :: rest => { given := [(c, value)], rest := .ok rest }
        | cs, rest => { given := [(c, .ofList cs)], rest := .ok rest }
      else (readLetters known cs rest).after [(c, "")]

/-- Reads what stands behind two hyphens. -/
def readName (known : List Choice) (text : List Char) (rest : List String) : Chosen :=
  let name := text.takeWhile (· != '=')
  match choiceOf known (.ofList name) with
  | .error message => { given := [], rest := .error message }
  | .ok k =>
    match text.drop name.length, k.takes, rest with
    | _ :: value, true, rest => { given := [(k.letter, .ofList value)], rest := .ok rest }
    | _ :: _, false, _ => { given := [], rest := .error ("option '--" ++ k.name ++ "' doesn't allow an argument") }
    | [], false, rest => { given := [(k.letter, "")], rest := .ok rest }
    | [], true, value :: rest => { given := [(k.letter, value)], rest := .ok rest }
    | [], true, [] => { given := [], rest := .error ("option '--" ++ k.name ++ "' requires an argument") }

/-- Reads options and operands; `isMixed` tells whether options may stand behind operands. -/
def readChoices (known : List Choice) (isMixed : Bool) : Nat → List String → Chosen
  | 0, args => { given := [], rest := .ok args }
  | _ + 1, [] => { given := [], rest := .ok [] }
  | fuel + 1, a :: rest =>
    match a.toList with
    | ['-', '-'] => { given := [], rest := .ok rest }
    | '-' :: '-' :: text => (readName known text rest).andThen (readChoices known isMixed fuel)
    | '-' :: c :: cs => (readLetters known (c :: cs) rest).andThen (readChoices known isMixed fuel)
    | _ =>
      if isMixed then
        let c := readChoices known isMixed fuel rest
        { c with rest := c.rest.map (a :: ·) }
      else { given := [], rest := .ok (a :: rest) }

/-- The options among arguments; the operands are left. -/
def choices (known : List Choice) (arguments : List String) : Chosen :=
  readChoices known true (arguments.length + 1) arguments

/-- The options in front of the operands. -/
def choicesInFront (known : List Choice) (arguments : List String) : Chosen :=
  readChoices known false (arguments.length + 1) arguments

end Tool
end Galley
