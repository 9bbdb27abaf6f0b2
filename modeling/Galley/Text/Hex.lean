/-! Bytes written as lowercase hexadecimal, two digits a byte, and read back from digits of either case. -/
namespace Galley.Text

/-- The lowercase digit of a number below sixteen. -/
def hexDigit (n : Nat) : Char := if n < 10 then Char.ofNat (48 + n) else Char.ofNat (87 + n)

/-- The value of a hexadecimal digit of either case. -/
def hexValue? (c : Char) : Option Nat :=
  let n := c.toNat
  if 48 ≤ n && n ≤ 57 then some (n - 48)
  else if 97 ≤ n && n ≤ 102 then some (n - 87)
  else if 65 ≤ n && n ≤ 70 then some (n - 55)
  else none

/-- The two digits of a byte. -/
def hexByte (b : UInt8) : List Char := [hexDigit (b.toNat / 16), hexDigit (b.toNat % 16)]

/-- The digits of a list of bytes. -/
def hexList (bs : List UInt8) : String := String.ofList (bs.flatMap hexByte)

/-- The digits of a byte array. -/
def hex (bytes : ByteArray) : String := hexList bytes.data.toList

/-- The bytes a string of digit pairs stands for. -/
def ofHexList? : List Char → Option (List UInt8)
  | [] => some []
  | [_] => none
  | a :: b :: rest => do
    let high ← hexValue? a
    let low ← hexValue? b
    let more ← ofHexList? rest
    some (UInt8.ofNat (16 * high + low) :: more)

/-- The number a string of digits stands for, most significant digit first. -/
def hexNumber? (cs : List Char) : Option Nat :=
  cs.foldlM (fun n c => (hexValue? c).map (16 * n + ·)) 0

theorem length_hexByte (b : UInt8) : (hexByte b).length = 2 := rfl

end Galley.Text
