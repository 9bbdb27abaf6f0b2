import Galley.File.Regular
import Galley.Proofs.Memory.Veil

/-! # Writing to a file

A buffer that grows stops growing before twice the room that is needed (`grow_le`).  A
buffer that the machine can hold has a place for every write but one of no bytes past its
end (`write_eq_none_iff`), and what is written is then added to what was written before
(`written_of_write`).  So a file to which little has been written takes more
(`Holds.exists_write`). -/
namespace Galley

theorem getElem?_zeros {n i : Nat} (hi : i < n) : (zeros n).data[i]? = some 0 := by
  induction n using zeros.induct generalizing i with
  | case1 => omega
  | case2 n hn heven ih =>
    have hhalf : (zeros (n / 2)).data.size = n / 2 := size_zeros _
    rw [zeros, if_neg hn, if_pos heven, ByteArray.data_append, Array.getElem?_append, hhalf]
    split
    · exact ih ‹_›
    · exact ih (by omega)
  | case3 n hn hodd ih =>
    have hhalf : (zeros (n / 2)).data.size = n / 2 := size_zeros _
    rw [zeros, if_neg hn, if_neg hodd, ByteArray.data_push, ByteArray.data_append, Array.getElem?_push,
      Array.getElem?_append, Array.size_append, hhalf]
    split
    · rfl
    · split
      · exact ih ‹_›
      · exact ih (by omega)

namespace RegularFile

theorem le_grow (position length capacity : Nat) : capacity ≤ grow position length capacity := by
  fun_induction grow position length capacity with
  | case1 capacity _ ih => omega
  | case2 capacity _ => exact Nat.le_refl capacity

theorem room_of_grow {position length capacity : Nat} (h : 0 < length) :
    position + length ≤ grow position length capacity := by
  fun_induction grow position length capacity with
  | case1 capacity _ ih => exact ih
  | case2 capacity _ => omega

/-- **Growing stops before twice the room that is needed.** -/
theorem grow_le (position length capacity : Nat) :
    grow position length capacity ≤ max capacity (2 * (position + length)) := by
  fun_induction grow position length capacity with
  | case1 capacity _ ih => omega
  | case2 capacity _ => exact Nat.le_max_left ..

theorem grow_nothing (position capacity : Nat) : grow position 0 capacity = capacity := by
  rw [grow, if_neg (Nat.not_lt_zero _)]

theorem size_widen {buffer : ByteArray} {capacity : Nat} (h : buffer.size ≤ capacity) :
    (widen buffer capacity).size = capacity := by
  rw [widen]
  split
  · rw [ByteArray.size_append, size_zeros]
    omega
  · omega

theorem getElem?_widen {buffer : ByteArray} {capacity i : Nat} (hi : i < buffer.size) :
    (widen buffer capacity).data[i]? = buffer.data[i]? := by
  rw [widen]
  split
  · rw [ByteArray.data_append, Array.getElem?_append_left hi]
  · rfl

/-- What a write makes of a file. -/
theorem write_eq_some {f f' : RegularFile} {data : ByteArray} (h : f.write data = some f') :
    f'.cursor.position = f.cursor.position + data.size ∧
      f'.buffer.size = grow f.cursor.position data.size f.buffer.size := by
  simp only [write] at h
  split at h
  next hfits =>
    rw [Bool.and_eq_true, decide_eq_true_eq] at hfits
    obtain rfl := Option.some.inj h
    have hwiden := size_widen (le_grow f.cursor.position data.size f.buffer.size)
    exact ⟨rfl, (Memory.size_splice (by rw [hwiden]; exact hfits.1)).trans hwiden⟩
  next => cases h

/-- What is written lies inside the buffer. -/
theorem position_le_of_write {f f' : RegularFile} {data : ByteArray} (h : f.write data = some f') :
    f'.cursor.position ≤ f'.buffer.size := by
  obtain ⟨hposition, hsize⟩ := write_eq_some h
  simp only [write] at h
  split at h
  next hfits =>
    rw [Bool.and_eq_true, decide_eq_true_eq] at hfits
    rw [hposition, hsize]
    exact hfits.1
  next => cases h

/-- A buffer that the machine can hold has no place to write at only for no bytes, past its
end. -/
theorem write_eq_none_iff {f : RegularFile} {data : ByteArray} (hbuffer : f.buffer.size ≤ maxCapacity)
    (hroom : 2 * (f.cursor.position + data.size) ≤ maxCapacity) :
    f.write data = none ↔ data.size = 0 ∧ f.buffer.size < f.cursor.position := by
  have hmax : grow f.cursor.position data.size f.buffer.size ≤ maxCapacity :=
    Nat.le_trans (grow_le ..) (Nat.max_le.mpr ⟨hbuffer, hroom⟩)
  simp only [write, hmax, decide_true, Bool.and_true, decide_eq_true_eq, ite_eq_right_iff, reduceCtorEq, imp_false]
  rcases Nat.eq_zero_or_pos data.size with hnothing | hsome
  · rw [hnothing, grow_nothing]
    omega
  · have hfits : f.cursor.position + data.size ≤ grow f.cursor.position data.size f.buffer.size := room_of_grow hsome
    omega

/-- **What is written comes behind what was written before**, if the file does not stand past
the end of its buffer. -/
theorem written_of_write {f f' : RegularFile} {data : ByteArray} (h : f.write data = some f')
    (hposition : f.cursor.position ≤ f.buffer.size) : f'.written = f.written ++ data := by
  simp only [write] at h
  split at h
  next hfits =>
    rw [Bool.and_eq_true, decide_eq_true_eq] at hfits
    obtain rfl := Option.some.inj h
    have hwide := size_widen (le_grow f.cursor.position data.size f.buffer.size)
    have hfits := hwide ▸ hfits.1
    have hwiden {i : Nat} (hi : i < f.buffer.size) :
        (widen f.buffer (grow f.cursor.position data.size f.buffer.size)).data[i]? = f.buffer.data[i]? :=
      getElem?_widen hi
    generalize widen f.buffer (grow f.cursor.position data.size f.buffer.size) = wide at hfits hwiden ⊢
    refine ByteArray.ext (Array.ext_getElem? fun i => ?_)
    have hbuffer : f.buffer.data.size = f.buffer.size := rfl
    have hdata : data.data.size = data.size := rfl
    have hsplice : (splice wide f.cursor.position data).data.size = wide.size := Memory.size_splice hfits
    simp only [written]
    rw [ByteArray.data_extract, ByteArray.data_append, Array.getElem?_extract, Array.getElem?_append,
      ByteArray.data_extract, Array.getElem?_extract, Array.size_extract, hsplice, Nat.zero_add,
      Memory.getElem?_splice hfits]
    grind
  next => cases h

theorem rest_of_write {f f' : RegularFile} {data : ByteArray} (h : f.write data = some f') :
    f'.name = f.name ∧ f'.mode = f.mode ∧ f'.isOpen = f.isOpen := by
  simp only [write] at h
  split at h
  · obtain rfl := Option.some.inj h
    exact ⟨rfl, rfl, rfl⟩
  · cases h

/-- The file was opened for writing under the name when nothing was stored there, and this has been
written to it since. -/
structure Holds (f : RegularFile) (name : String) (content : ByteArray) : Prop where
  name : f.name = name
  mode : f.mode = .write
  isOpen : f.isOpen = true
  written : f.written = content
  position : f.cursor.position = content.size
  least : content.size ≤ f.buffer.size
  most : f.buffer.size ≤ 2 * content.size

theorem holds_opened (name : String) : (opened name .write .empty).Holds name .empty where
  name := rfl
  mode := rfl
  isOpen := rfl
  written := rfl
  position := rfl
  least := Nat.le_refl _
  most := Nat.le_refl _

/-- **A file takes what is written next**, if that does not make it too large. -/
theorem Holds.exists_write {f : RegularFile} {name : String} {content : ByteArray} (h : f.Holds name content)
    (data : ByteArray) (hroom : 2 * (content.size + data.size) ≤ maxCapacity) :
    ∃ f', f.write data = some f' ∧ f'.Holds name (content ++ data) := by
  have hleast := h.least
  have hmost := h.most
  have hbuffer : f.buffer.size ≤ maxCapacity := by omega
  obtain ⟨f', hwrite⟩ : ∃ f', f.write data = some f' := by
    refine Option.ne_none_iff_exists'.mp fun hnone => ?_
    rw [write_eq_none_iff hbuffer (h.position ▸ hroom), h.position] at hnone
    omega
  obtain ⟨hname, hmode, hopen⟩ := rest_of_write hwrite
  obtain ⟨hposition, hsize⟩ := write_eq_some hwrite
  rw [h.position] at hposition hsize
  have hlength : (content ++ data).size = content.size + data.size := ByteArray.size_append
  refine ⟨f', hwrite, hname.trans h.name, hmode.trans h.mode, hopen.trans h.isOpen, ?_, hposition.trans hlength.symm,
    ?_, ?_⟩
  · rw [written_of_write hwrite (h.position ▸ hleast), h.written]
  · rw [hlength, ← hposition]
    exact position_le_of_write hwrite
  · have hgrown := grow_le content.size data.size f.buffer.size
    omega

end RegularFile
end Galley
