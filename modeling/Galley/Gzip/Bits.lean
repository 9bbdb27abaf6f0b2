import Galley.Bytes

/-! Reading a byte array bit by bit, the low bit of each byte first. -/
namespace Galley.Gzip

/-- A byte array and the number of bits already taken from it. -/
structure Bits where
  bytes : ByteArray
  taken : Nat

namespace Bits

/-- The next bit. -/
def next? (b : Bits) : Option (Nat × Bits) :=
  (byteAt? b.bytes (b.taken / 8)).map fun byte =>
    ((byte.toNat >>> (b.taken % 8)) % 2, { b with taken := b.taken + 1 })

/-- The number that the next `n` bits are, least significant bit first. -/
def number? : Nat → Bits → Option (Nat × Bits)
  | 0, b => some (0, b)
  | n + 1, b => do
    let (low, b) ← b.next?
    let (high, b) ← number? n b
    some (low + 2 * high, b)

/-- The first byte that no bit was taken from. -/
def byteIndex (b : Bits) : Nat := (b.taken + 7) / 8

/-- The next `n` whole bytes; the rest of a byte already begun is skipped. -/
def bytes? (n : Nat) (b : Bits) : Option (ByteArray × Bits) :=
  let start := b.byteIndex
  if start + n ≤ b.bytes.size then some (slice b.bytes start n, { b with taken := 8 * (start + n) }) else none

end Bits
end Galley.Gzip
