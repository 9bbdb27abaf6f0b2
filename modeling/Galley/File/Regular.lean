import Galley.Bytes

/-! Named files over a growing buffer. A file opened for writing uses the buffer as capacity: its logical length
is the position of its cursor, and what lies past the position is zeros or older content. -/
namespace Galley

/-- The direction a file was opened in. -/
inductive Mode where
  | read
  | write
  deriving DecidableEq

/-- Where a reader stands: the byte position, the position of the line reader, and the two flags. -/
structure Cursor where
  position : Nat
  linePosition : Nat
  atEnd : Bool
  atLineEnd : Bool

def Cursor.start : Cursor := { position := 0, linePosition := 0, atEnd := false, atLineEnd := false }

structure RegularFile where
  name : String
  mode : Mode
  /-- The open succeeded. -/
  isOpen : Bool
  buffer : ByteArray
  cursor : Cursor

namespace RegularFile

/-- A file at the start of its content. -/
def opened (name : String) (mode : Mode) (content : ByteArray) : RegularFile :=
  { name, mode, isOpen := true, buffer := content, cursor := .start }

/-- A file whose open failed: it is at its end from the start. -/
def failed (name : String) : RegularFile :=
  { name, mode := .read, isOpen := false, buffer := .empty,
    cursor := { Cursor.start with atEnd := true, atLineEnd := true } }

/-- The least capacity, reached from `capacity` by steps of `1 + 2 * capacity`, that has room for `length` bytes
at `position`. No room is needed for no bytes, wherever the position is. -/
def grow (position length capacity : Nat) : Nat :=
  if length > capacity - position then grow position length (1 + capacity * 2) else capacity
termination_by position + length - capacity
decreasing_by omega

/-- The buffer filled up with zeros to a capacity. -/
def widen (buffer : ByteArray) (capacity : Nat) : ByteArray :=
  if buffer.size < capacity then buffer ++ zeros (capacity - buffer.size) else buffer

/-- The greatest size of a buffer: sizes are signed words of 64 bits. -/
def maxCapacity : Nat := Nat.pow 2 63 - 1

/-- Writes at the cursor. `none` when there is no place in the buffer to write at: either no buffer can be as large
as is needed, or the cursor lies past the end of the buffer although the buffer has all the capacity it needs, which
happens only for no bytes at all. -/
def write (f : RegularFile) (data : ByteArray) : Option RegularFile :=
  let position := f.cursor.position
  let capacity := grow position data.size f.buffer.size
  if position + data.size ≤ capacity && capacity ≤ maxCapacity then
    some
      { f with
        buffer := splice (widen f.buffer capacity) position data
        cursor := { f.cursor with position := position + data.size } }
  else none

/-- Up to `length` bytes at the cursor. -/
def readAtCursor (f : RegularFile) (length : Nat) : ByteArray := slice f.buffer f.cursor.position length

/-- The bytes before the cursor. -/
def written (f : RegularFile) : ByteArray := f.buffer.extract 0 f.cursor.position

end RegularFile
end Galley
