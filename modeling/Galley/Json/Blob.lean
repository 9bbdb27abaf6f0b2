import Galley.Json.Record

/-! Byte strings written in JSON: a string is its UTF-8 bytes, `hex` gives arbitrary bytes, `rep` repeats a byte
string, and an array is a concatenation. -/
namespace Galley.Json

/-- `n` copies of `bytes`, one after the other. -/
def repeated (n : Nat) (bytes : ByteArray) : ByteArray :=
  (List.replicate n bytes).foldl (· ++ ·) .empty

mutual
/-- Reads a byte string. -/
def blob? : Json → Option ByteArray
  | string s => s.text?.map String.toUTF8
  | array items => blobs? items
  | object [(name, v)] => do
    match ← name.text?, v with
    | "hex", string s => (Text.ofHexList? (← s.text?).toList).map List.toByteArray
    | "rep", array [item, count] => some (repeated (← count.natBelow? (Nat.pow 2 64)) (← blob? item))
    | _, _ => none
  | _ => none

/-- Reads a concatenation. -/
def blobs? : List Json → Option ByteArray
  | [] => some .empty
  | v :: more => do
    let front ← blob? v
    let back ← blobs? more
    some (front ++ back)
end

end Galley.Json
