import Galley.Gzip.Checksum
import Galley.Gzip.Inflate

/-! Gzip members: a header, a DEFLATE stream, and the checksum and length of the data. Reading takes the first
member of the input and ignores what follows it; writing makes a member whose blocks are stored. -/
namespace Galley.Gzip

/-- The two bytes every member starts with. -/
def magic : ByteArray := [0x1F, 0x8B].toByteArray

/-- The data starts like a member. -/
def isMember (bytes : ByteArray) : Bool := bytes.extract 0 2 == magic

/-- The longest name or comment. -/
def maxFieldLength : Nat := 65535

/-- The offset behind a zero-terminated field. -/
def skipField (bytes : ByteArray) (offset : Nat) : Option Nat := do
  let length ← (bytes.extract offset bytes.size).data.findIdx? (· == 0)
  if length ≤ maxFieldLength then some (offset + length + 1) else none

/-- The little-endian number of `n` bytes at an offset. -/
def littleEndian? (bytes : ByteArray) : Nat → Nat → Option Nat
  | _, 0 => some 0
  | offset, n + 1 => do
    let low ← byteAt? bytes offset
    let high ← littleEndian? bytes (offset + 1) n
    some (low.toNat + 256 * high)

/-- The offset behind the optional parts of a header, in their order: extra field, name, comment, checksum of the
header. -/
def skipOptions (bytes : ByteArray) (flags : Nat) : Option Nat := do
  let offset := 10
  let offset ← if flags.testBit 2 then do
      let length ← littleEndian? bytes offset 2
      if offset + 2 + length ≤ bytes.size then some (offset + 2 + length) else none
    else some offset
  let offset ← if flags.testBit 3 then skipField bytes offset else some offset
  let offset ← if flags.testBit 4 then skipField bytes offset else some offset
  if flags.testBit 1 then do
    let stored ← littleEndian? bytes offset 2
    if stored == (crc32 (bytes.extract 0 offset)).toNat % 65536 then some (offset + 2) else none
  else some offset

/-- The offset behind the header: DEFLATE is the only method, and the reserved flags must be clear. -/
def headerEnd? (bytes : ByteArray) : Option Nat := do
  if bytes.size < 10 || !isMember bytes || bytes.get! 2 != 8 then none
  else
    let flags := (bytes.get! 3).toNat
    if flags ≥ 0x20 then none else skipOptions bytes flags

/-- The data of the first member. -/
def decompress? (bytes : ByteArray) : Option ByteArray := do
  let start ← headerEnd? bytes
  let (data, b) ← inflate { bytes, taken := 8 * start }
  let checksum ← littleEndian? bytes b.byteIndex 4
  let length ← littleEndian? bytes (b.byteIndex + 4) 4
  if checksum == (crc32 data).toNat && length == data.size % 4294967296 then some data else none

/-- The `n` low-order bytes of a number, least significant first. -/
def littleEndian : Nat → Nat → List UInt8
  | 0, _ => []
  | n + 1, value => UInt8.ofNat value :: littleEndian n (value / 256)

/-- The largest stored block. -/
def maxStored : Nat := 65535

/-- One stored block. -/
def storeBlock (last : Bool) (data : ByteArray) : ByteArray :=
  ((if last then 1 else 0) :: littleEndian 2 data.size ++ littleEndian 2 (65535 - data.size)).toByteArray ++ data

/-- Data as stored blocks. -/
def storeBlocks (data : ByteArray) : ByteArray :=
  if data.size ≤ maxStored then storeBlock true data
  else storeBlock false (data.extract 0 maxStored) ++ storeBlocks (data.extract maxStored data.size)
termination_by data.size
decreasing_by simp only [ByteArray.size_extract, maxStored] at *; omega

/-- Data as a member. -/
def compress (data : ByteArray) : ByteArray :=
  [0x1F, 0x8B, 8, 0, 0, 0, 0, 0, 0, 0xFF].toByteArray ++ storeBlocks data ++
    (littleEndian 4 (crc32 data).toNat ++ littleEndian 4 data.size).toByteArray

end Galley.Gzip
