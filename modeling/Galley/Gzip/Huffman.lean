import Galley.Gzip.Bits

/-! Canonical Huffman codes, given by the code length of every symbol. Codes of one length are consecutive numbers
in the order of their symbols, and a shorter code is never the front of a longer one. -/
namespace Galley.Gzip

/-- The longest code. -/
def maxCodeLength : Nat := 15

/-- A code: for each length how many symbols have it, and the symbols ordered by length, then by number. -/
structure Huffman where
  counts : List Nat
  symbols : Array Nat

namespace Huffman

/-- The symbols with a given code length. -/
def symbolsOf (lengths : List Nat) (length : Nat) : List Nat :=
  lengths.zipIdx.filterMap fun (l, symbol) => if l == length then some symbol else none

/-- The code with these lengths; length zero means that a symbol has no code. -/
def ofLengths (lengths : List Nat) : Huffman :=
  let bySize := (List.range' 1 maxCodeLength).map (symbolsOf lengths)
  { counts := bySize.map List.length, symbols := bySize.flatten.toArray }

/-- How much of the space of all codes of the longest length is used. -/
def usedSpace : Nat → List Nat → Nat
  | _, [] => 0
  | size, count :: more => count * size + usedSpace (size / 2) more

/-- The code uses up the space of codes exactly. -/
def isComplete (h : Huffman) : Bool := usedSpace (Nat.pow 2 (maxCodeLength - 1)) h.counts == Nat.pow 2 maxCodeLength

/-- The code is complete, or has no symbols at all, or has a single symbol, and that one's code is one bit long. -/
def isUsable (h : Huffman) : Bool :=
  h.isComplete || h.symbols.isEmpty || (h.symbols.size == 1 && h.counts.head? == some 1)

/-- Takes bits until they are the code of a symbol. `code` is the number read so far, `first` the least code of the
present length, `index` where the symbols of that length start. -/
def decodeFrom (h : Huffman) (code first index : Nat) : List Nat → Bits → Option (Nat × Bits)
  | [], _ => none
  | count :: more, b => do
    let (bit, b) ← b.next?
    let code := 2 * code + bit
    let first := 2 * first
    if code < first + count then do
      let symbol ← h.symbols[index + (code - first)]?
      some (symbol, b)
    else decodeFrom h code (first + count) (index + count) more b

/-- The next symbol. -/
def decode (h : Huffman) (b : Bits) : Option (Nat × Bits) := h.decodeFrom 0 0 0 h.counts b

end Huffman
end Galley.Gzip
