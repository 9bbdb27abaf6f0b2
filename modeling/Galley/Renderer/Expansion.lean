import Galley.Renderer.Pattern
import Galley.Renderer.Shell

/-! The expansion of words into fields: parameters are replaced by their values and scripts by what they print, what
is not quoted is split, and patterns are replaced by the paths that match them. -/
namespace Galley
namespace Shell

/-! ## Fields -/

/-- Fields being made of a word: the finished ones in reverse, and the one under way, also in reverse. What is
quoted is marked. -/
structure Fields where
  finished : List Pattern.Source
  current : Option Pattern.Source

namespace Fields

def none : Fields := { finished := [], current := Option.none }

/-- Text that belongs to the field under way. -/
def add (f : Fields) (text : String) (quoted : Bool) : Fields :=
  if text.isEmpty && !quoted then f
  else { f with current := some (text.toList.foldl (fun cs c => (c, quoted) :: cs) (f.current.getD [])) }

/-- Ends the field under way, which is there even if it is empty. -/
def close (f : Fields) : Fields :=
  { finished := (f.current.getD []).reverse :: f.finished, current := Option.none }

/-- What follows a separator belongs to it: blanks, and behind a blank one mark. -/
inductive Gap where
  | none
  | behindBlank
  | behindMark

/-- A separator that counts as blank. So does the one between arguments. -/
def isBlank (c : Char) : Bool := c == ' ' || c == '\t' || c == '\n' || c == '\x00'

/-- Text that is split at separators. Blanks at the front of a field are left out; a mark ends a field, also an
empty one. -/
def addSplit (f : Fields) (separators : List Char) (text : String) : Fields :=
  (text.toList.foldl (fun (f, gap) c =>
    if !(separators.contains c || c == '\x00') then (f.add c.toString false, Gap.none)
    else
      match gap, isBlank c with
      | .none, true => if f.current.isNone then (f, .none) else (f.close, .behindBlank)
      | .none, false => (f.close, .behindMark)
      | gap, true => (f, gap)
      | .behindBlank, false => (f, .behindMark)
      | .behindMark, false => (f.close, .behindMark)) ((f, Gap.none) : Fields × Gap)).1

/-- Texts that are fields of their own, but for what stands in front of the first and behind the last. -/
def addAll (f : Fields) : List String → Fields
  | [] => f
  | [a] => f.add a true
  | a :: rest => (f.add a true).close.addAll rest

/-- All fields. -/
def all (f : Fields) : List Pattern.Source := (f.current.toList.map List.reverse ++ f.finished).reverse

/-- The field under way as a text with marks. -/
def whole (f : Fields) : Pattern.Source := (f.current.getD []).reverse

end Fields

/-- What of a word is split: nothing, what parameters and scripts put into it, or what stands in it as well. -/
inductive Splitting where
  | nothing
  | expansions
  | everything
  deriving DecidableEq

/-! ## Paths -/

/-- The home of a user; without a name, that of the one who runs the shell. -/
def home? (s : Shell) (user : String) : Option String :=
  if user.isEmpty then s.bound? "HOME" else if user == "root" then some "/root" else none

/-- Where a tilde that is not quoted stands for a home: at the front of a word, and in an assignment also behind
colons. -/
structure Tilde where
  inAssignment : Bool
  isFirst : Bool

namespace Tilde

def never : Tilde := { inAssignment := false, isFirst := false }
def word : Tilde := { inAssignment := false, isFirst := true }
def assignment : Tilde := { inAssignment := true, isFirst := true }

/-- What counts behind a piece. -/
def behind (t : Tilde) : Piece → Tilde
  | .text s false => { t with isFirst := t.inAssignment && s.toList.getLast? == some ':' }
  | _ => { t with isFirst := false }

end Tilde

/-- The parts of a text that is not quoted: homes, which are marked, and what stands between them. A tilde that
something quoted or expanded follows stays. -/
def untilded (s : Shell) (t : Tilde) (isLast : Bool) : Nat → List Char → List (String × Bool)
  | 0, _ => []
  | _ + 1, [] => []
  | fuel + 1, c :: rest =>
    let onwards (_ : Unit) := (c.toString, false) ::
      untilded s { t with isFirst := t.inAssignment && c == ':' } isLast fuel rest
    if t.isFirst && c == '~' then
      let user := rest.takeWhile fun c => c != '/' && !(t.inAssignment && c == ':')
      let left := rest.drop user.length
      match (if left.isEmpty && !isLast then none else s.home? (.ofList user)) with
      | some home => (home, true) :: untilded s { t with isFirst := false } isLast fuel left
      | none => onwards ()
    else onwards ()

/-- The parts of a path between slashes. -/
def parts (cs : Pattern.Source) : List Pattern.Source := cs.splitOnP fun c => c.1 == '/'

/-- The names in a directory, with those that stand for itself and for the one above. -/
def namesIn (d : Disk) (path : String) : List String :=
  match d.find (if path.isEmpty then "." else wide path) with
  | .ok (.directory entries) => "." :: ".." :: entries.map fun e => narrow e.1
  | _ => []

/-- The paths behind a place that fit parts. A name with a dot in front must be met by a dot. -/
def pathsBehind (d : Disk) (place : String) : List Pattern.Source → List String
  | [] => if (d.find (wide place)).toOption.isSome then [place] else []
  | part :: rest =>
    let slash := if rest.isEmpty then "" else "/"
    if Pattern.isMeant part then
      let pattern := Pattern.spelled part
      let isHidden := (Pattern.charAt part).any fun c => c.1 == '.'
      let names := (namesIn d place).filter fun name =>
        (isHidden || !name.startsWith ".") && Pattern.fits pattern name.toList
      names.flatMap fun name => pathsBehind d (place ++ name ++ slash) rest
    else pathsBehind d (place ++ Pattern.Source.text part ++ slash) rest

/-- The paths that a field stands for, in order: those that fit it, or itself if there are none. -/
def paths (s : Shell) (field : Pattern.Source) : List String :=
  let itself := Pattern.Source.text field
  if s.has 'f' || !Pattern.isMeant field then [itself]
  else
    let found := pathsBehind s.disk "" (parts field)
    if found.isEmpty then [itself] else found.mergeSort fun a b => a ≤ b

/-! ## Words -/

/-- Runs a script and tells what it prints. -/
abbrev Substitute := Shell → Script → Shell × String

/-- Puts the text of an expansion into fields. -/
def put (s : Shell) (splitting : Splitting) (quoted : Bool) (f : Fields) (text : String) : Fields :=
  if quoted then f.add text true
  else if splitting == .nothing then f.add text false
  else f.addSplit s.separators text

/-- What an expansion of something inside of another splits. -/
def Splitting.inner : Splitting → Splitting
  | nothing => .nothing
  | _ => .everything

mutual

/-- Expands a piece of a word. -/
def expandPiece (run : Substitute) (splitting : Splitting) (t : Tilde) (isLast : Bool) (s : Shell) (f : Fields) :
    Piece → Shell × Fields
  | .text text q =>
    let plain (f : Fields) (text : String) : Fields :=
      if splitting == .everything then put s splitting q f text else f.add text q
    if q || !text.contains '~' then (s, plain f text)
    else
      (s, (s.untilded t isLast (text.length + 1) text.toList).foldl (fun f (part, isHome) =>
        if isHome then f.add part true else plain f part) f)
  | .printed script q =>
    let (s, text) := run s script
    (s, put s splitting q f text)
  | .computed formula q =>
    let (s, g) := expandPieces run .nothing .never s .none formula
    let text := g.whole.text
    let failed (cause : String) := s.fail ("arithmetic expression: " ++ cause ++ ": \"" ++ text ++ "\"")
    if s.halted.isSome then (s, f)
    else
      match Formula.ofText text with
      | .error message => (failed message, f)
      | .ok formula =>
        match formula.value holder s with
        | .ok (n, s) => (s, put s splitting q f (toString n))
        | .error .divisionByZero => (failed "division by zero", f)
        | .error (.notNumber held) => (s.fail ("Illegal number: " ++ held), f)
        | .error (.refused message) => (s.fail message, f)
  | .parameter name use orEmpty other q =>
    let isMany := name == "@" || name == "*"
    let isApart := isMany && splitting != .nothing && (!q || name == "@")
    let joint := if isApart then "\x00" else s.joint
    let set := s.value? joint name
    let held := set.filter fun v => !(orEmpty && v.isEmpty)
    let shown (s : Shell) (text : String) :=
      if isApart && q then (s, f.addAll ((text.toList.splitOn '\x00').map String.ofList))
      else (s, put s splitting q f text)
    let demanded (use : Use) : Bool := s.has 'u' && match use with
      | .plain | .length | .withoutFront _ | .withoutEnd _ => set.isNone
      | .severed => held.isNone
      | _ => false
    let start := if q then f.add "" true else f
    let t := if q && !use.isTrim then Tilde.never else .word
    if demanded use then (s.fail (name ++ ": parameter not set"), f)
    else
      match use, held with
      | .misspelt, _ => (s.fail "Bad substitution", f)
      | .length, _ => shown s (toString (set.getD "").length)
      | .fallback, none => expandPieces run splitting.inner t s start other
      | .replaced, none => (s, start)
      | .replaced, some _ => expandPieces run splitting.inner t s start other
      | .stored, none =>
        let (s, g) := expandPieces run .nothing t s .none other
        let text := g.whole.text
        if !Script.isName name then (s.fail (name ++ ": bad variable name"), f)
        else if s.halted.isSome then (s, f)
        else shown (s.assign name text) text
      | .demanded, none =>
        let (s, g) := expandPieces run .nothing t s .none other
        let usual := if orEmpty then "parameter not set or null" else "parameter not set"
        let message := if other.isEmpty then usual else g.whole.text
        (if s.halted.isSome then s else s.fail (name ++ ": " ++ message), f)
      | .withoutFront longest, _ =>
        let (s, g) := expandPieces run .nothing t s .none other
        shown s (.ofList (Pattern.dropFront (Pattern.spelled g.whole) longest (set.getD "").toList))
      | .withoutEnd longest, _ =>
        let (s, g) := expandPieces run .nothing t s .none other
        shown s (.ofList (Pattern.dropEnd (Pattern.spelled g.whole) longest (set.getD "").toList))
      | .severed, _ =>
        let (s, f) := shown s (set.getD "")
        expandPieces run splitting .never s f other
      | .plain, none => (s, start)
      | _, some v => if isApart && q then (s, f.addAll s.arguments) else shown s v

/-- Expands the pieces of a word, as long as the shell goes on. -/
def expandPieces (run : Substitute) (splitting : Splitting) (t : Tilde) (s : Shell) (f : Fields) :
    List Piece → Shell × Fields
  | [] => (s, f)
  | p :: more =>
    if s.halted.isSome then (s, f)
    else
      let (s, f) := expandPiece run splitting t more.isEmpty s f p
      if p.severs then (s, f) else expandPieces run splitting (t.behind p) s f more

end

/-- The text of a word that is not split. -/
def expandWhole (run : Substitute) (s : Shell) (inAssignment : Bool) (w : Word) : Shell × String :=
  let (s, f) := expandPieces run .nothing (if inAssignment then .assignment else .word) s .none w
  (s, f.whole.text)

/-- The pattern that a word spells. -/
def expandPattern (run : Substitute) (s : Shell) (w : Word) : Shell × Pattern :=
  let (s, f) := expandPieces run .nothing .word s .none w
  (s, Pattern.spelled f.whole)

/-- The fields of a word. -/
def expandWord (run : Substitute) (s : Shell) (w : Word) : Shell × List String :=
  let (s, f) := expandPieces run .expansions .word s .none w
  (s, f.all.flatMap s.paths)

/-- The commands whose arguments can be assignments. -/
def assigners : List String := ["alias", "export", "local", "readonly"]

/-- The fields of some words. What looks like an assignment is not split behind a command that takes those. -/
def expandWords (run : Substitute) (s : Shell) (fields : List String) : List Word → Shell × List String
  | [] => (s, fields)
  | w :: more =>
    let assigns := (fields.dropWhile (· == "command")).head?.any assigners.contains
    if s.halted.isSome then (s, fields)
    else
      match (if assigns then Script.assignment? w else none) with
      | some (name, value) =>
        let (s, text) := s.expandWhole run true value
        expandWords run s (fields ++ [name ++ "=" ++ text]) more
      | none =>
        let (s, found) := s.expandWord run w
        expandWords run s (fields ++ found) more

end Shell
end Galley
