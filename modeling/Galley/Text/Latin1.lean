/-! ISO-8859-1: every byte is the character of the same number, so decoding never fails and keeps the length. -/
namespace Galley.Text

/-- The character a byte stands for in ISO-8859-1. -/
def latin1Char (b : UInt8) : Char := Char.ofNat b.toNat

/-- The ISO-8859-1 text of a list of bytes. -/
def latin1List (bs : List UInt8) : List Char := bs.map latin1Char

/-- The ISO-8859-1 text of a byte array. -/
def latin1 (bytes : ByteArray) : String := String.ofList (latin1List bytes.data.toList)

/-- The bytes of an ISO-8859-1 text. -/
def latin1Bytes (s : String) : ByteArray := (s.toList.map fun c => UInt8.ofNat c.toNat).toByteArray

theorem length_latin1List (bs : List UInt8) : (latin1List bs).length = bs.length := by
  simp [latin1List]

end Galley.Text
