/-! The CRC-32 of a byte array, with the reflected polynomial `EDB88320`. -/
namespace Galley.Gzip

/-- Shifts one bit out of the register. -/
def crcBit (r : UInt32) : UInt32 := if r &&& 1 == 1 then (0xEDB88320 : UInt32) ^^^ (r >>> 1) else r >>> 1

/-- `n` bits shifted out of the register. -/
def crcBits : Nat → UInt32 → UInt32
  | 0, r => r
  | n + 1, r => crcBits n (crcBit r)

/-- The register after each possible low byte. -/
def crcTable : Array UInt32 := Array.ofFn fun i : Fin 256 => crcBits 8 (UInt32.ofNat i.val)

/-- The register after one more byte. -/
def crcByte (r : UInt32) (b : UInt8) : UInt32 :=
  (crcTable[(r.toUInt8 ^^^ b).toNat]?).getD 0 ^^^ (r >>> 8)

/-- The checksum of a byte array. -/
def crc32 (bytes : ByteArray) : UInt32 := bytes.foldl crcByte 0xFFFFFFFF ^^^ 0xFFFFFFFF

end Galley.Gzip
