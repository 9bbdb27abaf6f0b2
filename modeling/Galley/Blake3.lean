/-! The BLAKE3 hash of a byte string, 32 bytes of output. The input is cut into chunks of 1024 bytes, each chunk
into blocks of 64; a chunk is a chain of compressions, and the chunks are the leaves of a left-complete binary
tree whose root compression yields the digest. Words are little-endian and 32 bits wide. -/
namespace Galley.Blake3

/-- Sixteen words: a message block, or the state of the compression function. -/
abbrev Block := Vector UInt32 16

/-- Eight words: the chaining value that one compression hands to the next. -/
abbrev Chain := Vector UInt32 8

/-- The initial chaining value. -/
def initial : Chain :=
  #v[0x6A09E667, 0xBB67AE85, 0x3C6EF372, 0xA54FF53A, 0x510E527F, 0x9B05688C, 0x1F83D9AB, 0x5BE0CD19]

/-- How the message words are permuted between rounds. -/
def schedule : Vector (Fin 16) 16 := #v[2, 6, 3, 10, 7, 0, 4, 13, 1, 11, 12, 5, 9, 14, 15, 8]

def permute (m : Block) : Block := schedule.map fun i => m[i]

/-- Rotation to the right, for an amount between 1 and 31. -/
def rotateRight (x : UInt32) (n : UInt32) : UInt32 := (x >>> n) ||| (x <<< (32 - n))

/-- The quarter round: mixes two message words into four words of the state. -/
def mix (v : Block) (a b c d : Fin 16) (x y : UInt32) : Block :=
  let v := v.set a (v[a] + v[b] + x)
  let v := v.set d (rotateRight (v[d] ^^^ v[a]) 16)
  let v := v.set c (v[c] + v[d])
  let v := v.set b (rotateRight (v[b] ^^^ v[c]) 12)
  let v := v.set a (v[a] + v[b] + y)
  let v := v.set d (rotateRight (v[d] ^^^ v[a]) 8)
  let v := v.set c (v[c] + v[d])
  v.set b (rotateRight (v[b] ^^^ v[c]) 7)

/-- One round: the four columns, then the four diagonals. -/
def round (v m : Block) : Block :=
  let v := mix v 0 4 8 12 m[0] m[1]
  let v := mix v 1 5 9 13 m[2] m[3]
  let v := mix v 2 6 10 14 m[4] m[5]
  let v := mix v 3 7 11 15 m[6] m[7]
  let v := mix v 0 5 10 15 m[8] m[9]
  let v := mix v 1 6 11 12 m[10] m[11]
  let v := mix v 2 7 8 13 m[12] m[13]
  mix v 3 4 9 14 m[14] m[15]

/-- `n` rounds, the message permuted before every round but the first. -/
def rounds : Nat → Block → Block → Block
  | 0, v, _ => v
  | n + 1, v, m => rounds n (round v m) (permute m)

/-- What a compression is told besides its chaining value: the block, how many of its bytes count, the number of
the chunk it belongs to, and the domain flags. -/
structure Input where
  block : Block
  length : UInt32
  counter : Nat
  flags : UInt32

def chunkStart : UInt32 := 1
def chunkEnd : UInt32 := 2
def parent : UInt32 := 4
def root : UInt32 := 8

/-- The compression function, cut to the eight words that are a chaining value or the digest. -/
def compress (cv : Chain) (i : Input) : Chain :=
  let low := UInt32.ofNat i.counter
  let high := UInt32.ofNat (i.counter / 4294967296)
  let v : Block :=
    #v[cv[0], cv[1], cv[2], cv[3], cv[4], cv[5], cv[6], cv[7],
      initial[0], initial[1], initial[2], initial[3], low, high, i.length, i.flags]
  let v := rounds 7 v i.block
  #v[v[0] ^^^ v[8], v[1] ^^^ v[9], v[2] ^^^ v[10], v[3] ^^^ v[11],
    v[4] ^^^ v[12], v[5] ^^^ v[13], v[6] ^^^ v[14], v[7] ^^^ v[15]]

/-- The little-endian word at index `i` of a list of bytes, bytes past the end being zero. -/
def wordAt (bs : Array UInt8) (i : Nat) : UInt32 :=
  let byte (j : Nat) : UInt32 := ((bs[4 * i + j]?).getD 0).toUInt32
  byte 0 ||| (byte 1 <<< 8) ||| (byte 2 <<< 16) ||| (byte 3 <<< 24)

/-- A block of at most 64 bytes, filled up with zeros. -/
def blockOf (bs : Array UInt8) : Block := Vector.ofFn fun i => wordAt bs i

/-- The four bytes of a word, least significant first. -/
def wordBytes (w : UInt32) : List UInt8 :=
  [w.toUInt8, (w >>> 8).toUInt8, (w >>> 16).toUInt8, (w >>> 24).toUInt8]

/-- A node of the tree before its compression: the root is compressed with a flag of its own, so what is kept
of a node is the arguments and not the result. -/
structure Node where
  chain : Chain
  input : Input

/-- The chaining value a node hands to its parent. -/
def Node.value (n : Node) : Chain := compress n.chain n.input

/-- The digest, when the node is the root. -/
def Node.digest (n : Node) : List UInt8 :=
  (compress n.chain { n.input with flags := n.input.flags ||| root, counter := 0 }).toList.flatMap wordBytes

/-- The parent of two subtrees. -/
def Node.join (left right : Node) : Node :=
  { chain := initial, input := { block := left.value ++ right.value, length := 64, counter := 0, flags := parent } }

/-- The consecutive pieces of `bs` of `n + 1` bytes each, the last one possibly shorter. -/
def pieces (n : Nat) (bs : List UInt8) : List (List UInt8) :=
  if bs.length ≤ n + 1 then [bs] else bs.take (n + 1) :: pieces n (bs.drop (n + 1))
termination_by bs.length

/-- The chain of blocks of one chunk: all but the last are compressed, the last is left to the node. -/
def chunkFrom (counter : Nat) (chain : Chain) (start : UInt32) : List (List UInt8) → Node
  | [] => { chain, input := { block := blockOf #[], length := 0, counter, flags := start ||| chunkEnd } }
  | [last] =>
    { chain, input :=
      { block := blockOf last.toArray, length := UInt32.ofNat last.length, counter, flags := start ||| chunkEnd } }
  | block :: more =>
    chunkFrom counter
      (compress chain { block := blockOf block.toArray, length := 64, counter, flags := start }) 0 more

/-- The leaf of chunk number `counter`. -/
def chunk (counter : Nat) (bs : List UInt8) : Node := chunkFrom counter initial chunkStart (pieces 63 bs)

/-- How many of `n + 2` chunks go to the left subtree: the largest power of two that leaves one for the right. -/
def leftSize (n : Nat) : Nat := Nat.pow 2 (Nat.log2 (n + 1))

theorem leftSize_le (n : Nat) : leftSize n ≤ n + 1 := Nat.log2_self_le (by omega)

theorem leftSize_pos (n : Nat) : 0 < leftSize n := Nat.two_pow_pos _

/-- The subtree over consecutive chunks, the first of them numbered `counter`. -/
def tree (counter : Nat) : List (List UInt8) → Node
  | [] => chunk counter []
  | [bs] => chunk counter bs
  | first :: second :: more =>
    let size := leftSize more.length
    let all := first :: second :: more
    have : size ≤ more.length + 1 := leftSize_le _
    have : 0 < size := leftSize_pos _
    (tree counter (all.take size)).join (tree (counter + size) (all.drop size))
termination_by cs => cs.length
decreasing_by all_goals simp_all only [List.length_take, List.length_drop, List.length_cons]; omega

/-- The 32-byte BLAKE3 digest of `bs`. -/
def hash (bs : List UInt8) : List UInt8 := (tree 0 (pieces 1023 bs)).digest

end Galley.Blake3
