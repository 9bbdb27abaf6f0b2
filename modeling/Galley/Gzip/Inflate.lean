import Galley.Gzip.Huffman

/-! The DEFLATE format: a sequence of blocks, each stored, coded with a fixed pair of Huffman codes, or coded with
a pair of codes that it describes itself. Any violation of the format is a failure. The window that back references
look into is full of zeros at the start, so one that reaches before the start of the output finds zeros there. -/
namespace Galley.Gzip

/-- A list of base values, each with the number of extra bits that are added to it. -/
abbrev ValueTable := Array (Nat × Nat)

/-- The lengths of copies, for the symbols from 257 on. -/
def lengthTable : ValueTable :=
  #[(3, 0), (4, 0), (5, 0), (6, 0), (7, 0), (8, 0), (9, 0), (10, 0), (11, 1), (13, 1), (15, 1), (17, 1), (19, 2),
    (23, 2), (27, 2), (31, 2), (35, 3), (43, 3), (51, 3), (59, 3), (67, 4), (83, 4), (99, 4), (115, 4), (131, 5),
    (163, 5), (195, 5), (227, 5), (258, 0)]

/-- The distances of copies. -/
def distanceTable : ValueTable :=
  #[(1, 0), (2, 0), (3, 0), (4, 0), (5, 1), (7, 1), (9, 2), (13, 2), (17, 3), (25, 3), (33, 4), (49, 4), (65, 5),
    (97, 5), (129, 6), (193, 6), (257, 7), (385, 7), (513, 8), (769, 8), (1025, 9), (1537, 9), (2049, 10),
    (3073, 10), (4097, 11), (6145, 11), (8193, 12), (12289, 12), (16385, 13), (24577, 13)]

/-- The value a symbol of a table stands for, its extra bits taken from the input. -/
def tableValue? (table : ValueTable) (symbol : Nat) (b : Bits) : Option (Nat × Bits) := do
  let (base, extra) ← table[symbol]?
  let (more, b) ← b.number? extra
  some (base + more, b)

/-- The byte that stands `distance` bytes before the end of the window. -/
def lookBack (out : ByteArray) (distance : Nat) : UInt8 :=
  if distance ≤ out.size then out.get! (out.size - distance) else 0

/-- Appends `length` bytes that repeat what stands `distance` bytes before the end. -/
def copyBack (distance : Nat) : Nat → ByteArray → ByteArray
  | 0, out => out
  | length + 1, out => copyBack distance length (out.push (lookBack out distance))

/-- The symbol that ends a block. -/
def endOfBlock : Nat := 256

/-- The symbols of a coded block, up to its end. -/
def codedBlock (literals distances : Huffman) : Nat → ByteArray → Bits → Option (ByteArray × Bits)
  | 0, _, _ => none
  | fuel + 1, out, b => do
    let (symbol, b) ← literals.decode b
    if symbol < endOfBlock then codedBlock literals distances fuel (out.push (UInt8.ofNat symbol)) b
    else if symbol == endOfBlock then some (out, b)
    else
      let (length, b) ← tableValue? lengthTable (symbol - 257) b
      let (symbol, b) ← distances.decode b
      let (distance, b) ← tableValue? distanceTable symbol b
      codedBlock literals distances fuel (copyBack distance length out) b

/-- A stored block: its length, the complement of its length, its bytes. -/
def storedBlock (out : ByteArray) (b : Bits) : Option (ByteArray × Bits) := do
  let (header, b) ← b.bytes? 4
  let length := (header.get! 0).toNat + 256 * (header.get! 1).toNat
  let complement := (header.get! 2).toNat + 256 * (header.get! 3).toNat
  if length + complement == 65535 then do
    let (data, b) ← b.bytes? length
    some (out ++ data, b)
  else none

/-- The lengths of the fixed literal code. -/
def fixedLengths : List Nat :=
  List.replicate 144 8 ++ List.replicate 112 9 ++ List.replicate 24 7 ++ List.replicate 8 8

def fixedLiterals : Huffman := .ofLengths fixedLengths

def fixedDistances : Huffman := .ofLengths (List.replicate 32 5)

/-- The order in which the lengths of the length code are written. -/
def lengthOrder : List Nat := [16, 17, 18, 0, 8, 7, 9, 6, 10, 5, 11, 4, 12, 3, 13, 2, 14, 1, 15]

/-- `n` numbers of three bits. -/
def shortNumbers : Nat → Bits → Option (List Nat × Bits)
  | 0, b => some ([], b)
  | n + 1, b => do
    let (x, b) ← b.number? 3
    let (xs, b) ← shortNumbers n b
    some (x :: xs, b)

/-- Code lengths, written with a length code that has symbols for repetition. `found` holds the lengths so far,
last one first. A repetition may not go beyond the number wanted. -/
def codeLengths (code : Huffman) (wanted : Nat) : Nat → List Nat → Bits → Option (List Nat × Bits)
  | 0, _, _ => none
  | fuel + 1, found, b =>
    if found.length == wanted then some (found.reverse, b)
    else if found.length > wanted then none
    else do
      let (symbol, b) ← code.decode b
      if symbol < 16 then codeLengths code wanted fuel (symbol :: found) b
      else if symbol == 16 then do
        let last ← found.head?
        let (n, b) ← b.number? 2
        codeLengths code wanted fuel (List.replicate (3 + n) last ++ found) b
      else if symbol == 17 then do
        let (n, b) ← b.number? 3
        codeLengths code wanted fuel (List.replicate (3 + n) 0 ++ found) b
      else do
        let (n, b) ← b.number? 7
        codeLengths code wanted fuel (List.replicate (11 + n) 0 ++ found) b

/-- The two codes a block describes. -/
def describedCodes (b : Bits) : Option (Huffman × Huffman × Bits) := do
  let (literals, b) ← b.number? 5
  let (distances, b) ← b.number? 5
  let (lengths, b) ← b.number? 4
  let literals := literals + 257
  let distances := distances + 1
  if literals > 286 || distances > 30 then none
  else do
    let (written, b) ← shortNumbers (lengths + 4) b
    let lengthCode := Huffman.ofLengths ((List.range 19).map fun symbol =>
      ((lengthOrder.zip written).lookup symbol).getD 0)
    if !lengthCode.isComplete then none
    else do
      let (all, b) ← codeLengths lengthCode (literals + distances) (literals + distances + 1) [] b
      let literalCode := Huffman.ofLengths (all.take literals)
      let distanceCode := Huffman.ofLengths (all.drop literals)
      if literalCode.isUsable && distanceCode.isUsable then some (literalCode, distanceCode, b) else none

/-- One block behind its two bits of type. -/
def block (kind fuel : Nat) (out : ByteArray) (b : Bits) : Option (ByteArray × Bits) :=
  if kind == 0 then storedBlock out b
  else if kind == 1 then codedBlock fixedLiterals fixedDistances fuel out b
  else if kind == 2 then do
    let (literals, distances, b) ← describedCodes b
    codedBlock literals distances fuel out b
  else none

/-- Blocks up to the one marked as the last. Every step takes a bit at least, so the number of bits is enough
fuel. -/
def blocks (bits : Nat) : Nat → ByteArray → Bits → Option (ByteArray × Bits)
  | 0, _, _ => none
  | fuel + 1, out, b => do
    let (last, b) ← b.number? 1
    let (kind, b) ← b.number? 2
    let (out, b) ← block kind bits out b
    if last == 1 then some (out, b) else blocks bits fuel out b

/-- The data of a DEFLATE stream, and what follows the stream. -/
def inflate (b : Bits) : Option (ByteArray × Bits) :=
  blocks (8 * b.bytes.size + 1) (8 * b.bytes.size + 1) .empty b

end Galley.Gzip
