/-! Reading command line words against a table of switches. A switch has a long name and perhaps a letter; the value
of one that takes a value stands behind an equals sign, directly behind the letter, or in the next word, which then
must not look like a switch itself. Letters can be joined. After `--` no word is a switch.

A command line is read from the front, and the first thing in it that is wrong, or that asks about the program,
decides. What stands in a word of its own, a value or a plain word, is only looked at when the next thing is
complete, or at the end. -/
namespace Galley.CommandLine

/-- What a switch takes, and whether it may be given more than once. -/
inductive Takes where
  | nothing
  | repeats
  | value
  | values
  deriving DecidableEq

namespace Takes

def aValue : Takes → Bool
  | value | values => true
  | _ => false

def isSingle : Takes → Bool
  | nothing | value => true
  | _ => false

end Takes

/-- Why a command line is not carried out. -/
inductive Refusal where
  | malformed
  /-- The name and version are asked for. -/
  | version
  /-- The usage is asked for, of the program or of one of its commands, in short or in full. -/
  | help (command : Option String) (full : Bool)
  deriving DecidableEq

structure Switch where
  name : String
  letter : Option Char
  takes : Takes
  /-- The values that can be given. -/
  accepts : String → Bool
  /-- What the switch asks for, if that is about the program itself; its long form may ask for more. -/
  asks : Option (Bool → Refusal)

/-- A switch that takes nothing. -/
def Switch.flag (name : String) (letter : Option Char) (takes : Takes) : Switch :=
  { name, letter, takes, accepts := fun _ => true, asks := none }

/-- A switch with a value. -/
def Switch.valued (name : String) (letter : Option Char) (takes : Takes) (accepts : String → Bool) : Switch :=
  { name, letter, takes, accepts, asks := none }

/-- A switch that asks about the program. -/
def Switch.question (name : String) (letter : Char) (asks : Bool → Refusal) : Switch :=
  { name, letter := some letter, takes := .nothing, accepts := fun _ => true, asks := some asks }

/-- A word, or a switch with its value. -/
inductive Item where
  | word (text : String)
  | given (s : Switch) (value : Option String)

/-- The values that a switch was given, in order; a switch that takes none has empty ones. -/
def valuesOf (items : List Item) (name : String) : List String :=
  items.filterMap fun
    | .given s value => if s.name == name then some (value.getD "") else none
    | .word _ => none

/-- The plain words. -/
def wordsOf (items : List Item) : List String :=
  items.filterMap fun
    | .word text => some text
    | .given .. => none

/-- How far a command line has been read: what has been looked at, and what has not. -/
structure Reading where
  items : List Item
  pending : Option Item

namespace Reading

def start : Reading := { items := [], pending := none }

/-- Looks at an item: a word must not be empty, a single switch must be new, and a value must be acceptable. -/
def accept (r : Reading) (item : Item) : Except Refusal Reading :=
  let isSound := match item with
    | .word text => !text.isEmpty
    | .given s value => !(s.takes.isSingle && !(valuesOf r.items s.name).isEmpty) && value.all s.accepts
  if isSound then .ok { r with items := r.items ++ [item] } else .error .malformed

/-- Looks at what is pending. -/
def settle (r : Reading) : Except Refusal Reading :=
  match r.pending with
  | none => .ok r
  | some item => { r with pending := none }.accept item

/-- An item that is complete. A switch that asks about the program ends the reading. -/
def now (r : Reading) (item : Item) (isLong : Bool) : Except Refusal Reading := do
  let r ← r.settle
  match item with
  | .given { asks := some asks, .. } _ => .error (asks isLong)
  | item => r.accept item

/-- An item that is looked at later. -/
def later (r : Reading) (item : Item) : Except Refusal Reading := do
  let r ← r.settle
  .ok { r with pending := some item }

/-- A plain word; there may be one at most. -/
def word (r : Reading) (text : String) : Except Refusal Reading :=
  if (wordsOf (r.items ++ r.pending.toList)).isEmpty then r.later (.word text) else .error .malformed

end Reading

/-- The word looks like a switch. A lone hyphen is a word. -/
def looksLikeSwitch (word : String) : Bool := word.toList.head? == some '-' && word != "-"

/-- Reads joined letters; the second part of the result is the switch that still waits for its value. -/
def readLetters (table : List Switch) (r : Reading) : List Char → Except Refusal (Reading × Option Switch)
  | [] => .ok (r, none)
  | c :: rest =>
    match table.find? (·.letter == some c) with
    | none => .error .malformed
    | some s =>
      if s.takes.aValue then
        match rest with
        | [] => .ok (r, some s)
        | '=' :: value => do .ok (← r.now (.given s (some (.ofList value))) false, none)
        | value => do .ok (← r.now (.given s (some (.ofList value))) false, none)
      else do readLetters table (← r.now (.given s none) false) rest

/-- Reads a long name with perhaps a value behind an equals sign. -/
def readLong (table : List Switch) (r : Reading) (text : List Char) : Except Refusal (Reading × Option Switch) :=
  let name := String.ofList (text.takeWhile (· != '='))
  let value := match text.dropWhile (· != '=') with
    | [] => none
    | _ :: value => some (String.ofList value)
  match table.find? (·.name == name) with
  | none => .error .malformed
  | some s =>
    match s.takes.aValue, value with
    | true, none => .ok (r, some s)
    | false, some _ => .error .malformed
    | _, value => do .ok (← r.now (.given s value) true, none)

/-- Reads a word that looks like a switch. -/
def readSwitch (table : List Switch) (r : Reading) (word : String) : Except Refusal (Reading × Option Switch) :=
  match word.toList with
  | '-' :: '-' :: name => readLong table r name
  | _ :: letters => readLetters table r letters
  | [] => .error .malformed

/-- The words up to the first that is no switch, which is the last part of the result with what follows it. That
word must not stand behind `--`. -/
def readFront (table : List Switch) (r : Reading) :
    List String → Except Refusal (Reading × Option (String × List String))
  | [] => do .ok (← r.settle, none)
  | "--" :: _ => .error .malformed
  | word :: rest =>
    if !looksLikeSwitch word then .ok (r, some (word, rest))
    else
      match readSwitch table r word with
      | .error e => .error e
      | .ok (r, none) => readFront table r rest
      | .ok (r, some s) =>
        match rest with
        | [] => .error .malformed
        | value :: rest =>
          if looksLikeSwitch value then .error .malformed
          else do readFront table (← r.later (.given s (some value))) rest

/-- Reads all words. -/
def readAll (table : List Switch) (r : Reading) : List String → Except Refusal Reading
  | [] => r.settle
  | "--" :: rest => do (← rest.foldlM (fun r word => r.word word) r).settle
  | word :: rest =>
    if !looksLikeSwitch word then do readAll table (← r.word word) rest
    else
      match readSwitch table r word with
      | .error e => .error e
      | .ok (r, none) => readAll table r rest
      | .ok (r, some s) =>
        match rest with
        | [] => .error .malformed
        | value :: rest =>
          if looksLikeSwitch value then .error .malformed
          else do readAll table (← r.later (.given s (some value))) rest

end Galley.CommandLine
