/-! Patterns that match names: stars, question marks, and sets in brackets. A character can be marked as standing
for itself. -/
namespace Galley

/-- What a set holds: ranges of characters, and classes that have a name. -/
inductive PatternSet where
  | range (first last : Char)
  | named (holds : Char → Bool)

/-- A part of a pattern. -/
inductive PatternPart where
  | char (c : Char)
  | any
  | many
  /-- One of some characters, or none of them. -/
  | oneOf (isNegated : Bool) (sets : List PatternSet)

abbrev Pattern := List PatternPart

namespace Pattern

/-- Characters of a pattern; those that stand for themselves are marked. -/
abbrev Source := List (Char × Bool)

/-- The characters alone. -/
def Source.text (cs : Source) : String := .ofList (cs.map (·.1))

/-- The classes of characters that have a name. -/
def class? (name : String) : Option (Char → Bool) :=
  let isShown (c : Char) := ' ' ≤ c && c ≤ '~'
  match name with
  | "alnum" => some Char.isAlphanum
  | "alpha" => some Char.isAlpha
  | "blank" => some fun c => c == ' ' || c == '\t'
  | "cntrl" => some fun c => c < ' ' || c == '\x7f'
  | "digit" => some Char.isDigit
  | "graph" => some fun c => isShown c && c != ' '
  | "lower" => some Char.isLower
  | "print" => some isShown
  | "punct" => some fun c => isShown c && c != ' ' && !c.isAlphanum
  | "space" => some fun c => c == ' ' || ('\t' ≤ c && c ≤ '\r')
  | "upper" => some Char.isUpper
  | "xdigit" => some fun c => c.isDigit || ('a' ≤ c.toLower && c.toLower ≤ 'f')
  | _ => none

/-- The class whose name stands behind an opening bracket, and what follows it. -/
def classAt? (cs : Source) : Option ((Char → Bool) × Source) :=
  match cs with
  | (':', false) :: rest =>
    let name := rest.takeWhile (·.1 != ':')
    match rest.drop name.length, class? (Source.text name) with
    | (':', _) :: (']', false) :: rest, some holds => some (holds, rest)
    | _, _ => none
  | _ => none

/-- The character at the front, which a backslash may stand before, and what follows. -/
def charAt : Source → Option (Char × Source)
  | ('\\', false) :: (c, _) :: rest => some (c, rest)
  | (c, _) :: rest => some (c, rest)
  | [] => none

/-- The sets up to a closing bracket, which may stand first as a character, and what follows. -/
def setsAt (isFirst : Bool) (held : List PatternSet) : Nat → Source → Option (List PatternSet × Source)
  | 0, _ => none
  | fuel + 1, cs =>
    let named := if cs.head? == some ('[', false) then classAt? (cs.drop 1) else none
    match named, cs with
    | some (holds, rest), _ => setsAt false (.named holds :: held) fuel rest
    | none, (']', false) :: rest =>
      if isFirst then one (']', rest) fuel else some (held.reverse, rest)
    | none, cs => (charAt cs).bind fun found => one found fuel
where
  /-- A single character, or a range that it starts. -/
  one (found : Char × Source) (fuel : Nat) : Option (List PatternSet × Source) :=
    let (a, rest) := found
    match rest with
    | ('-', false) :: rest' =>
      if rest'.head? == some (']', false) then setsAt false (.range a a :: held) fuel rest
      else (charAt rest').bind fun (b, rest) => setsAt false (.range a b :: held) fuel rest
    | rest => setsAt false (.range a a :: held) fuel rest

/-- The set behind an opening bracket, and what follows it. -/
def setAt? (cs : Source) : Option (PatternPart × Source) :=
  let (isNegated, cs) := match cs with
    | ('!', false) :: rest => (true, rest)
    | cs => (false, cs)
  (setsAt true [] (cs.length + 1) cs).map fun (sets, rest) => (.oneOf isNegated sets, rest)

/-- The pattern that characters spell. A backslash makes the next one stand for itself. -/
def ofSource : Nat → Source → Pattern
  | 0, _ => []
  | _ + 1, [] => []
  | fuel + 1, ('*', false) :: rest => .many :: ofSource fuel rest
  | fuel + 1, ('?', false) :: rest => .any :: ofSource fuel rest
  | fuel + 1, ('[', false) :: rest =>
    match setAt? rest with
    | some (set, rest) => set :: ofSource fuel rest
    | none => .char '[' :: ofSource fuel rest
  | fuel + 1, ('\\', false) :: (c, _) :: rest => .char c :: ofSource fuel rest
  | fuel + 1, (c, _) :: rest => .char c :: ofSource fuel rest

/-- The pattern that a whole text spells. -/
def spelled (cs : Source) : Pattern := ofSource (cs.length + 1) cs

/-- Something in the text is more than a character. -/
def isMeant (cs : Source) : Bool := cs.any fun (c, isQuoted) => !isQuoted && ['*', '?', '['].contains c

def PatternSet.holds (c : Char) : PatternSet → Bool
  | .range a b => a ≤ c && c ≤ b
  | .named holds => holds c

/-- A part other than a star matches a character. -/
def partFits (p : PatternPart) (c : Char) : Bool :=
  match p with
  | .char d => c == d
  | .any => true
  | .many => false
  | .oneOf isNegated sets => (sets.any (PatternSet.holds c)) != isNegated

/-- The whole of a text matches. -/
def fits : Pattern → List Char → Bool
  | [], cs => cs.isEmpty
  | .many :: p, cs => (List.range (cs.length + 1)).any fun n => fits p (cs.drop n)
  | part :: p, c :: cs => partFits part c && fits p cs
  | _ :: _, [] => false

/-- The text up to the end of its first part; parts end with a NUL. -/
def firstPart (cs : List Char) : List Char := cs.takeWhile (· != '\x00')

/-- A text without the front that matches, the longest such front or the shortest. -/
def dropFront (p : Pattern) (longest : Bool) (cs : List Char) : List Char :=
  let places := if longest then (List.range (cs.length + 1)).reverse else List.range ((firstPart cs).length + 1)
  cs.drop ((places.find? fun n => fits p (firstPart (cs.take n))).getD 0)

/-- A text without the end that matches. -/
def dropEnd (p : Pattern) (longest : Bool) (cs : List Char) : List Char :=
  let places := if longest then List.range ((firstPart cs).length + 1) else (List.range (cs.length + 1)).reverse
  cs.take ((places.find? fun n => fits p (firstPart (cs.drop n))).getD cs.length)

end Pattern
end Galley
