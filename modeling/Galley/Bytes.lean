/-! Byte arrays as buffers: blocks of zeros, overwriting a stretch in place, and the bound of their addresses. -/
namespace Galley

/-- The bound of positions and addresses, which are words of 64 bits. -/
def wordBound : Nat := Nat.pow 2 64

/-- `n` zero bytes. Built by doubling, so that a memory of many megabytes costs few steps. -/
def zeros (n : Nat) : ByteArray :=
  if n = 0 then .empty
  else
    let half := zeros (n / 2)
    if n % 2 = 0 then half ++ half else (half ++ half).push 0
termination_by n

/-- `bytes` with `data` in place of what stood from offset `at_` on; for `at_` within the array, the array grows
when `data` reaches over its end. -/
def splice (bytes : ByteArray) (at_ : Nat) (data : ByteArray) : ByteArray :=
  data.copySlice 0 bytes at_ data.size

/-- The `length` bytes from `offset` on, fewer when the array ends before. -/
def slice (bytes : ByteArray) (offset length : Nat) : ByteArray := bytes.extract offset (offset + length)

/-- The byte at an index, if there is one. -/
def byteAt? (bytes : ByteArray) (i : Nat) : Option UInt8 := if h : i < bytes.size then some bytes[i] else none

/-- The array holding one byte. -/
def oneByte (b : UInt8) : ByteArray := ByteArray.empty.push b

theorem size_zeros (n : Nat) : (zeros n).size = n := by
  fun_induction zeros n with
  | case1 => rfl
  | case2 n _ half h ih => simp only [half, ByteArray.size_append, ih]; omega
  | case3 n _ half h ih => simp only [half, ByteArray.size_push, ByteArray.size_append, ih]; omega

theorem size_oneByte (b : UInt8) : (oneByte b).size = 1 := rfl

end Galley
