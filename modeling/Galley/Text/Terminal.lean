import Galley.Text.Utf8

/-! Texts for a terminal: how a part of a text is set off by control sequences, and what is left of a text without
them. A control sequence starts with the escape character. How far it reaches depends on what follows: most end with
a letter, but a message to the terminal or to a device goes on until it is terminated. -/
namespace Galley.Text

/-- A text between sequences that turn on renditions of a terminal, by their numbers, and the one that resets them. -/
def styled (renditions : List Nat) (text : String) : String :=
  String.join (renditions.map fun n => "\x1b[" ++ toString n ++ "m") ++ text ++ "\x1b[0m"

/-- Where in a control sequence a terminal is. -/
inductive ControlState where
  | ground
  | escape
  /-- Behind an escape character and a mark such as a parenthesis. -/
  | marked
  /-- In the parameters of a control function. -/
  | function
  /-- In a message to the terminal, such as its title. -/
  | message
  | deviceEntry
  | deviceParameter
  | deviceMarked
  | deviceIgnored
  /-- In what a device is sent. -/
  | deviceData
  /-- In a text that is passed on to nobody. -/
  | discarded
  deriving DecidableEq

namespace ControlState

/-- A byte lies between two others. -/
def among (least greatest b : UInt8) : Bool := least ≤ b && b ≤ greatest

/-- Where a byte behind an escape character leads. -/
def afterEscape (b : UInt8) : ControlState :=
  if among 0x20 0x2F b then .marked
  else if b == 0x50 then .deviceEntry
  else if b == 0x5B then .function
  else if b == 0x5D then .message
  else if b == 0x58 || b == 0x5E || b == 0x5F then .discarded
  else if among 0x30 0x7E b then .ground
  else .escape

/-- Where a byte leads. An escape character starts a sequence anywhere, and two bytes cancel one anywhere. -/
def after (s : ControlState) (b : UInt8) : ControlState :=
  if b == 0x1B then .escape
  else if b == 0x18 || b == 0x1A then .ground
  else match s with
    | .ground => .ground
    | .escape => afterEscape b
    | .marked => if among 0x30 0x7E b then .ground else .marked
    | .function => if among 0x40 0x7E b then .ground else .function
    | .message => if b == 0x07 then .ground else .message
    | .deviceEntry | .deviceParameter =>
      if among 0x20 0x2F b then .deviceMarked
      else if among 0x30 0x3B b then .deviceParameter
      else if among 0x3C 0x3F b then if s == .deviceEntry then .deviceParameter else .deviceIgnored
      else if among 0x40 0x7E b then .deviceData
      else s
    | .deviceMarked =>
      if among 0x30 0x3F b then .deviceIgnored else if among 0x40 0x7E b then .deviceData else .deviceMarked
    | .deviceIgnored | .deviceData | .discarded => if b == 0x9C then .ground else s

/-- How many bytes follow the first one of a character in a text that is well-formed. -/
def tailLength (b : UInt8) : Nat :=
  if among 0xC2 0xDF b then 1 else if among 0xE0 0xEF b then 2 else if among 0xF0 0xF4 b then 3 else 0

/-- A byte that starts a character is to be seen, as is a blank; other control characters are not. Blanks count even
inside a short sequence. -/
def shows (s : ControlState) (b : UInt8) : Bool :=
  let isBlank := b == 0x09 || b == 0x0A || b == 0x0C || b == 0x0D
  match s with
  | .ground => among 0x20 0x7E b || isBlank || tailLength b > 0
  | .escape | .marked | .function => isBlank
  | _ => false

end ControlState

/-- What has been seen of a text. -/
structure Seen where
  state : ControlState
  /-- The byte before was to be seen. What can be seen goes on then, even within a sequence that a blank cut. -/
  shows : Bool
  /-- How many bytes of a character are still due. -/
  due : Nat
  /-- The bytes to be seen, the last one first. -/
  bytes : List UInt8

namespace Seen

/-- Looks at a byte. -/
def step (s : Seen) (b : UInt8) : Seen :=
  if s.due > 0 then { s with due := s.due - 1, bytes := b :: s.bytes }
  else if (if s.shows then ControlState.ground else s.state).shows b then
    let due := ControlState.tailLength b
    { state := if due > 0 then .ground else s.state, shows := true, due, bytes := b :: s.bytes }
  else { s with state := s.state.after b, shows := false }

/-- Nothing has been seen. -/
def nothing : Seen := { state := .ground, shows := false, due := 0, bytes := [] }

end Seen

/-- What is left of a text without its control sequences and control characters. -/
def withoutControls (text : String) : String :=
  let seen := text.toUTF8.foldl Seen.step .nothing
  (utf8? seen.bytes.reverse.toByteArray).getD ""

end Galley.Text
