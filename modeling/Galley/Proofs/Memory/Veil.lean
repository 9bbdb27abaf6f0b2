import Galley.Proofs.Paired

/-! # Memory outside the control words

Two memories are `Alike` if they differ in the two words of the control block at most.
Writing the same bytes to both keeps them so, wherever the bytes go, and so does what a
suspension writes.  `ControlBlock.veil` blanks the two words; memories that are alike
are the same behind the veil. -/
namespace Galley

namespace Memory

theorem size_splice {bytes data : ByteArray} {offset : Nat} (h : offset + data.size ≤ bytes.size) :
    (splice bytes offset data).size = bytes.size := by
  rw [splice, ByteArray.copySlice_eq_append]
  simp only [ByteArray.size_append, ByteArray.size_extract, ByteArray.size_data]
  omega

theorem getElem?_splice {bytes data : ByteArray} {offset : Nat} (h : offset + data.size ≤ bytes.size)
    (i : Nat) : (splice bytes offset data).data[i]? =
      if offset ≤ i ∧ i < offset + data.size then data.data[i - offset]? else bytes.data[i]? := by
  have hsize : offset + data.data.size ≤ bytes.data.size := h
  have hdata : data.size = data.data.size := rfl
  rw [splice, ByteArray.copySlice_eq_append]
  simp only [ByteArray.data_append, ByteArray.data_extract, Array.getElem?_append, Array.getElem?_extract,
    Array.size_extract, Array.size_append, hdata]
  grind

theorem size_wordBytes (w : UInt32) : (wordBytes w).size = 4 := rfl

/-- A write inside the memory. -/
theorem write_eq_ok {m : Memory} {offset : Nat} {data : ByteArray} (h : offset + data.size ≤ m.size) :
    write offset data m = .ok () ⟨splice m.bytes offset data⟩ := by
  rw [write, covers, if_pos (decide_eq_true h)]

/-- A read of no bytes. -/
theorem read_nothing (m : Memory) : m.read 0 0 = .ok .empty := by
  have hcovers : m.covers 0 0 = true := decide_eq_true (Nat.zero_le _)
  have hslice : slice m.bytes 0 0 = .empty := by
    simp [slice]
  rw [Memory.read, hcovers, if_pos rfl, hslice]

/-- A read of one byte. -/
theorem read_one {m : Memory} {offset : Nat} {value : UInt8} (h : m.bytes.data[offset]? = some value) :
    m.read offset 1 = .ok (oneByte value) := by
  obtain ⟨hlt, hvalue⟩ := Array.getElem?_eq_some_iff.mp h
  have hcovers : m.covers offset 1 = true := decide_eq_true hlt
  have hslice : slice m.bytes offset 1 = oneByte value := by
    refine ByteArray.ext (Array.ext_getElem? fun i => ?_)
    have hempty : ByteArray.empty.data = #[] := rfl
    simp only [slice, oneByte, ByteArray.data_extract, ByteArray.data_push, Array.getElem?_extract, hempty]
    grind
  rw [Memory.read, hcovers, if_pos rfl, hslice]

/-- Writing does not change how much memory there is. -/
theorem size_of_write {m m' : Memory} {offset : Nat} {data : ByteArray} (h : write offset data m = .ok () m') :
    m'.size = m.size := by
  rw [write, covers] at h
  split at h
  next hcovers =>
    cases h
    exact size_splice (of_decide_eq_true hcovers)
  next => cases h

theorem eq_of_write_error {m m' : Memory} {offset : Nat} {data : ByteArray} {fault : Fault}
    (h : write offset data m = .error fault m') : m' = m := by
  rw [write] at h
  split at h
  · cases h
  · cases h
    rfl

end Memory

namespace ControlBlock

/-- The address is one of the two control words'. -/
def hides (b : ControlBlock) (i : Nat) : Prop := b.start ≤ i ∧ i < b.start + 8

instance (b : ControlBlock) (i : Nat) : Decidable (b.hides i) := inferInstanceAs (Decidable (_ ∧ _))

/-- Two memories that differ in the control words at most. -/
structure Alike (b : ControlBlock) (m n : Memory) : Prop where
  size : m.size = n.size
  byte : ∀ i, ¬ b.hides i → m.bytes.data[i]? = n.bytes.data[i]?

variable {b : ControlBlock} {m n : Memory}

theorem Alike.refl (b : ControlBlock) (m : Memory) : b.Alike m m := ⟨rfl, fun _ _ => rfl⟩

theorem Alike.symm (h : b.Alike m n) : b.Alike n m := ⟨h.size.symm, fun i hi => (h.byte i hi).symm⟩

theorem Alike.trans {k : Memory} (h : b.Alike m n) (h' : b.Alike n k) : b.Alike m k :=
  ⟨h.size.trans h'.size, fun i hi => (h.byte i hi).trans (h'.byte i hi)⟩

/-! ## Accesses -/

theorem Alike.covers (h : b.Alike m n) (offset length : Nat) : m.covers offset length = n.covers offset length := by
  rw [Memory.covers, Memory.covers, h.size]

/-- The same bytes written to two memories. -/
theorem Alike.write (h : b.Alike m n) (offset : Nat) (data : ByteArray) :
    Paired b.Alike (Memory.write offset data m) (Memory.write offset data n) := by
  by_cases hm : offset + data.size ≤ m.size
  · have hn : offset + data.size ≤ n.size := h.size ▸ hm
    rw [Memory.write_eq_ok hm, Memory.write_eq_ok hn]
    refine .ok ⟨?_, ?_⟩
    · exact (Memory.size_splice hm).trans (h.size.trans (Memory.size_splice hn).symm)
    · intro i hi
      rw [Memory.getElem?_splice hm, Memory.getElem?_splice hn, h.byte i hi]
  · have hfault : m.fault offset data.size = n.fault offset data.size := by
      rw [Memory.fault, Memory.fault, h.size]
    rw [Memory.write, Memory.write, ← h.covers, Memory.covers, if_neg (by simpa using hm),
      if_neg (by simpa using hm), hfault]
    exact .error h

/-- A range outside the control words holds the same in both. -/
theorem Alike.read (h : b.Alike m n) {offset length : Nat}
    (houtside : offset + length ≤ b.start ∨ b.start + 8 ≤ offset) : m.read offset length = n.read offset length := by
  have hfault : m.fault offset length = n.fault offset length := by
    rw [Memory.fault, Memory.fault, h.size]
  have hslice : slice m.bytes offset length = slice n.bytes offset length := by
    refine ByteArray.ext (Array.ext_getElem? fun i => ?_)
    have hsize : m.bytes.data.size = n.bytes.data.size := h.size
    have hbyte (hi : i < length) : m.bytes.data[offset + i]? = n.bytes.data[offset + i]? := by
      refine h.byte _ fun hhides => ?_
      have hlow := hhides.1
      have hhigh := hhides.2
      omega
    simp only [slice, ByteArray.data_extract, Array.getElem?_extract, hsize]
    grind
  rw [Memory.read, Memory.read, h.covers, hfault, hslice]

/-- The text behind a length byte, when all that it can be long lies outside the control words. -/
theorem Alike.readPascal (h : b.Alike m n) {offset : Nat}
    (houtside : offset + 256 ≤ b.start ∨ b.start + 8 ≤ offset) : m.readPascal offset = n.readPascal offset := by
  have hlength : m.readByte offset = n.readByte offset := by
    rw [Memory.readByte, Memory.readByte, h.read (by omega)]
  simp only [Memory.readPascal, hlength, bind, Except.bind]
  cases n.readByte offset with
  | error fault => rfl
  | ok length =>
    have hlt : length.toNat < 256 := length.toNat_lt
    exact h.read (by omega)

/-- A write into the control words shows nowhere else. -/
theorem alike_splice {data : ByteArray} {offset : Nat} (hlow : b.start ≤ offset)
    (hhigh : offset + data.size ≤ b.start + 8) (hm : offset + data.size ≤ m.size) :
    b.Alike m ⟨splice m.bytes offset data⟩ where
  size := (Memory.size_splice hm).symm
  byte i hi := by
    rw [Memory.getElem?_splice hm, if_neg]
    intro h
    exact hi ⟨Nat.le_trans hlow h.1, Nat.lt_of_lt_of_le h.2 hhigh⟩

/-- What a suspension writes, where there is room for the control words. -/
theorem prepare_eq (hm : b.start + 8 ≤ m.size) :
    b.prepare m = .ok () ⟨splice (splice m.bytes b.start (Memory.wordBytes (UInt32.ofNat (b.start + 8))))
      (b.start + 4) (Memory.wordBytes (UInt32.ofNat b.stop))⟩ := by
  let first := Memory.wordBytes (UInt32.ofNat (b.start + 8))
  let second := Memory.wordBytes (UInt32.ofNat b.stop)
  have hfour : first.size = 4 := Memory.size_wordBytes _
  have hfirst : b.start + first.size ≤ m.size := by omega
  have hsize : Memory.size ⟨splice m.bytes b.start first⟩ = m.size := Memory.size_splice hfirst
  have hsecond : b.start + 4 + second.size ≤ Memory.size ⟨splice m.bytes b.start first⟩ := by rwa [hsize]
  show EStateM.bind (Memory.write b.start first) (fun _ => Memory.write (b.start + 4) second) m = _
  rw [EStateM.bind, Memory.write_eq_ok hfirst]
  exact Memory.write_eq_ok hsecond

/-- What a suspension writes is possible where there is room for the control words, and
shows nowhere else. -/
theorem prepare_eq_ok (hm : b.start + 8 ≤ m.size) : ∃ n, b.prepare m = .ok () n ∧ b.Alike m n := by
  let first := Memory.wordBytes (UInt32.ofNat (b.start + 8))
  have hsize : first.size = 4 := Memory.size_wordBytes _
  have hfirst : b.start + first.size ≤ m.size := by omega
  have halike : b.Alike m ⟨splice m.bytes b.start first⟩ :=
    alike_splice (Nat.le_refl _) (by omega) hfirst
  have hsecond : b.start + 4 + 4 ≤ Memory.size ⟨splice m.bytes b.start first⟩ := halike.size ▸ hm
  exact ⟨_, prepare_eq hm, halike.trans (alike_splice (Nat.le_add_right ..) (Nat.le_refl _) hsecond)⟩

/-- The first byte that a suspension writes. -/
theorem getElem?_of_prepare (hm : b.start + 8 ≤ m.size) (hn : b.prepare m = .ok () n) :
    n.bytes.data[b.start]? = some (UInt32.ofNat (b.start + 8)).toUInt8 := by
  let first := Memory.wordBytes (UInt32.ofNat (b.start + 8))
  have hroom : b.start + 8 ≤ m.bytes.size := hm
  have hfour : first.size = 4 := Memory.size_wordBytes _
  have hfirst : b.start + first.size ≤ m.bytes.size := by omega
  have hsize : (splice m.bytes b.start first).size = m.bytes.size := Memory.size_splice hfirst
  have hsecond : b.start + 4 + 4 ≤ (splice m.bytes b.start first).size := by rwa [hsize]
  rw [prepare_eq hm] at hn
  cases hn
  rw [Memory.getElem?_splice hsecond, if_neg (by omega), Memory.getElem?_splice hfirst,
    if_pos ⟨Nat.le_refl _, by omega⟩, Nat.sub_self]
  rfl

/-! ## The veil -/

/-- The memory with the control words blanked. -/
def veil (b : ControlBlock) (m : Memory) : Memory :=
  ⟨⟨m.bytes.data.mapIdx fun i byte => if b.hides i then 0 else byte⟩⟩

theorem Alike.veil_eq (h : b.Alike m n) : b.veil m = b.veil n := by
  have hbytes : m.bytes.data.mapIdx (fun i byte => if b.hides i then 0 else byte) =
      n.bytes.data.mapIdx fun i byte => if b.hides i then 0 else byte := by
    refine Array.ext_getElem? fun i => ?_
    rw [Array.getElem?_mapIdx, Array.getElem?_mapIdx]
    by_cases hi : b.hides i
    · have hsize : m.bytes.data.size = n.bytes.data.size := h.size
      simp only [hi, if_true]
      grind
    · simp only [hi, if_false, h.byte i hi]
  rw [veil, hbytes, veil]

end ControlBlock
end Galley
