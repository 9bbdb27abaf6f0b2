import Galley.Bytes
import Galley.Text.Latin1

/-! The guest's memory: a fixed number of bytes that the host reads and writes by offset. Offsets and lengths are
natural numbers, so their sum never wraps; an access succeeds exactly when the whole range lies inside. A writer
that makes several writes keeps the earlier ones when a later one fails, so failing leaves a memory too. -/
namespace Galley

/-- The guest's memory. -/
structure Memory where
  bytes : ByteArray

namespace Memory

/-- An access that does not lie inside the memory. -/
structure Fault where
  offset : Nat
  length : Nat
  size : Nat
  deriving DecidableEq

def Fault.message (f : Fault) : String :=
  "Guest memory out of bounds: offset=" ++ toString f.offset ++ ", len=" ++ toString f.length ++
    ", memory_size=" ++ toString f.size

/-- An operation on memory that may fail, and that leaves a memory either way. -/
abbrev Access (α : Type) := EStateM Fault Memory α

/-- A memory of `n` zero bytes. -/
def zeroed (n : Nat) : Memory := ⟨zeros n⟩

def size (m : Memory) : Nat := m.bytes.size

/-- The range lies inside the memory. -/
def covers (m : Memory) (offset length : Nat) : Bool := offset + length ≤ m.size

def fault (m : Memory) (offset length : Nat) : Fault := { offset, length, size := m.size }

/-- The bytes of a range. -/
def read (m : Memory) (offset length : Nat) : Except Fault ByteArray :=
  if m.covers offset length then .ok (slice m.bytes offset length) else .error (m.fault offset length)

/-- Overwrites a range; a range that does not lie inside leaves the memory as it is. -/
def write (offset : Nat) (data : ByteArray) : Access Unit := fun m =>
  if m.covers offset data.size then .ok () ⟨splice m.bytes offset data⟩
  else .error (m.fault offset data.size) m

/-- The byte at an offset. -/
def readByte (m : Memory) (offset : Nat) : Except Fault UInt8 :=
  (m.read offset 1).map fun bytes => bytes.get! 0

def writeByte (offset : Nat) (value : UInt8) : Access Unit := write offset (oneByte value)

/-- The four bytes of a word, least significant first. -/
def wordBytes (w : UInt32) : ByteArray :=
  [w.toUInt8, (w >>> 8).toUInt8, (w >>> 16).toUInt8, (w >>> 24).toUInt8].toByteArray

/-- The word four bytes stand for, least significant first. -/
def wordOf (bytes : ByteArray) : UInt32 :=
  (bytes.get! 0).toUInt32 ||| ((bytes.get! 1).toUInt32 <<< 8) ||| ((bytes.get! 2).toUInt32 <<< 16) |||
    ((bytes.get! 3).toUInt32 <<< 24)

/-- The little-endian word at an offset. -/
def readWord (m : Memory) (offset : Nat) : Except Fault UInt32 := (m.read offset 4).map wordOf

def writeWord (offset : Nat) (value : UInt32) : Access Unit := write offset (wordBytes value)

/-- The longest text that a length byte can announce. -/
def maxPascalLength : Nat := 255

/-- A length byte and that many bytes after it. -/
def readPascal (m : Memory) (offset : Nat) : Except Fault ByteArray := do
  let length ← m.readByte offset
  m.read (offset + 1) length.toNat

/-- The ISO-8859-1 text behind a length byte. -/
def readPascalText (m : Memory) (offset : Nat) : Except Fault String :=
  (m.readPascal offset).map Text.latin1

/-- Writes a length byte, then the data, cut to what the length byte can announce. -/
def writePascal (offset : Nat) (data : ByteArray) : Access Unit := do
  let data := data.extract 0 maxPascalLength
  writeByte offset (UInt8.ofNat data.size)
  write (offset + 1) data

/-- Sets every byte of a range to one value. -/
def fill (offset length : Nat) (value : UInt8) : Access Unit := fun m =>
  if m.covers offset length then .ok () ⟨splice m.bytes offset (List.replicate length value).toByteArray⟩
  else .error (m.fault offset length) m

/-- A signed word that the guest passed as an offset or a length, as the host counts. -/
def address (w : Int32) : Nat := w.toUInt32.toNat

end Memory
end Galley
