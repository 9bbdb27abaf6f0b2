import Galley.Proofs.File.Writing
import Mathlib.Algebra.GroupWithZero.Nat

/-! # A write is a splice

A write puts its bytes at the cursor, leaves the rest of the buffer as it was, and fills with
zeros what it adds to the buffer (`Spliced`).  Doubling adds less than as much again as is
needed, so a write finds a buffer unless it would end so far out that no buffer is that large
(`HasRoomFor`); where none is, the machine has no place for the bytes and stops.

Writes one after the other therefore leave what was written before them, their own bytes in
order, what they have not reached of the old buffer, and zeros (`write_splices`). -/
namespace Galley.RegularFile

/-- There is a buffer that doubling reaches and that is large enough for the bytes at the cursor. -/
def HasRoomFor (f : RegularFile) (data : ByteArray) : Prop :=
  grow f.cursor.position data.size f.buffer.size ≤ maxCapacity

/-- The second file is the first one with `data` at its cursor and the cursor behind it.  The buffer
is the old one elsewhere, with zeros where that has ended. -/
structure Spliced (f : RegularFile) (data : ByteArray) (f' : RegularFile) : Prop where
  rest : f' = { f with
    buffer := f'.buffer, cursor := { f.cursor with position := f.cursor.position + data.size } }
  holds : f.cursor.position + data.size ≤ f'.buffer.size
  noShorter : f.buffer.size ≤ f'.buffer.size
  shortOfTwice : f.buffer.size < f'.buffer.size → f'.buffer.size < 2 * (f.cursor.position + data.size)
  inside : ∀ i, i < data.size → f'.buffer.data[f.cursor.position + i]? = data.data[i]?
  outside : ∀ i, i < f'.buffer.size → i < f.cursor.position ∨ f.cursor.position + data.size ≤ i →
    f'.buffer.data[i]? = some (f.buffer.data[i]?.getD 0)

variable {f f' : RegularFile} {data : ByteArray}

/-! ## One write -/

/-- A buffer that grows stops short of twice the room that is needed. -/
theorem grow_lt {position length capacity : Nat} (h : capacity < grow position length capacity) :
    grow position length capacity < 2 * (position + length) := by
  fun_induction grow position length capacity with
  | case1 capacity hmore ih =>
    by_cases hagain : 1 + capacity * 2 < grow position length (1 + capacity * 2)
    · exact ih hagain
    · have hle := le_grow position length (1 + capacity * 2)
      omega
  | case2 capacity _ => omega

theorem hasRoomFor_of_le (hbuffer : f.buffer.size ≤ maxCapacity) (h : f.cursor.position + data.size ≤ 2 ^ 62) :
    f.HasRoomFor data := by
  have hmax : maxCapacity = 2 ^ 63 - 1 := rfl
  by_cases hgrown : f.buffer.size < grow f.cursor.position data.size f.buffer.size
  · have hlt := grow_lt hgrown
    simp only [HasRoomFor]
    omega
  · simp only [HasRoomFor]
    omega

theorem write_eq_none_of_not_hasRoomFor (h : ¬ f.HasRoomFor data) : f.write data = none := by
  simp only [HasRoomFor] at h
  simp [write, h]

/-- Bytes that would end past the end of every buffer. -/
theorem write_eq_none_of_far (hdata : 0 < data.size) (h : maxCapacity < f.cursor.position + data.size) :
    f.write data = none := by
  refine write_eq_none_of_not_hasRoomFor fun hroom => ?_
  have hneeded : f.cursor.position + data.size ≤ grow f.cursor.position data.size f.buffer.size := room_of_grow hdata
  simp only [HasRoomFor] at hroom
  omega

/-- A write that has room has a place as well, unless it is of no bytes past the end of the buffer. -/
theorem exists_write_of_hasRoomFor (hplace : 0 < data.size ∨ f.cursor.position ≤ f.buffer.size)
    (h : f.HasRoomFor data) : ∃ f', f.write data = some f' := by
  have hneeded : f.cursor.position + data.size ≤ grow f.cursor.position data.size f.buffer.size := by
    rcases Nat.eq_zero_or_pos data.size with hnothing | hsome
    · rw [hnothing, grow_nothing]
      omega
    · exact room_of_grow hsome
  simp only [HasRoomFor] at h
  simp [write, hneeded, h]

theorem getElem?_widen_eq {buffer : ByteArray} {capacity i : Nat} (hi : i < capacity) (hlow : buffer.size ≤ capacity) :
    (widen buffer capacity).data[i]? = some (buffer.data[i]?.getD 0) := by
  have hbuffer : buffer.data.size = buffer.size := rfl
  by_cases hold : i < buffer.size
  · rw [getElem?_widen hold, Array.getElem?_eq_getElem (hbuffer.symm ▸ hold), Option.getD_some]
  · have hzero : (zeros (capacity - buffer.size)).data[i - buffer.size]? = some 0 := getElem?_zeros (by omega)
    rw [widen, if_pos (by omega), ByteArray.data_append, Array.getElem?_append_right (by omega), hbuffer, hzero,
      Array.getElem?_eq_none (by omega), Option.getD_none]

/-- **A write is a splice.** -/
theorem spliced_of_write (h : f.write data = some f') : f.Spliced data f' := by
  obtain ⟨-, hsize⟩ := write_eq_some h
  have hlow := le_grow f.cursor.position data.size f.buffer.size
  have hwide := size_widen hlow
  simp only [write] at h
  split at h
  next hfits =>
    rw [Bool.and_eq_true, decide_eq_true_eq] at hfits
    have hneeded := hfits.1
    have hroom := hwide.symm ▸ hneeded
    obtain rfl := Option.some.inj h
    constructor
    case rest => rfl
    case holds => rwa [hsize]
    case noShorter => rwa [hsize]
    case shortOfTwice =>
      rw [hsize]
      exact grow_lt
    case inside =>
      intro i hi
      rw [Memory.getElem?_splice hroom, if_pos (by omega), Nat.add_sub_cancel_left]
    case outside =>
      intro i hi hapart
      rw [hsize] at hi
      rw [Memory.getElem?_splice hroom, if_neg (by omega), getElem?_widen_eq hi hlow]
  next => cases h

/-! ## Writes one after the other -/

/-- The file after several writes. -/
def writeAll (f : RegularFile) : List ByteArray → Option RegularFile
  | [] => some f
  | piece :: more => (f.write piece).bind (writeAll · more)

/-- The bytes of several pieces in order. -/
def joined : List ByteArray → ByteArray
  | [] => .empty
  | piece :: more => piece ++ joined more

/-- Nothing at the cursor of a file that does not stand past its end. -/
theorem Spliced.nothing (h : f.cursor.position ≤ f.buffer.size) : f.Spliced .empty f where
  rest := rfl
  holds := h
  noShorter := Nat.le_refl _
  shortOfTwice hless := absurd hless (Nat.lt_irrefl _)
  inside _ hi := absurd hi (Nat.not_lt_zero _)
  outside i hi _ := by
    have hbuffer : f.buffer.data.size = f.buffer.size := rfl
    rw [Array.getElem?_eq_getElem (hbuffer.symm ▸ hi), Option.getD_some]

/-- **Two splices at the cursor are one**, of the bytes of both. -/
theorem Spliced.trans {f'' : RegularFile} {more : ByteArray} (h : f.Spliced data f') (h' : f'.Spliced more f'') :
    f.Spliced (data ++ more) f'' := by
  have hposition : f'.cursor.position = f.cursor.position + data.size := by rw [h.rest]
  have hboth : (data ++ more).size = data.size + more.size := ByteArray.size_append
  have hholds := h'.holds
  have hlonger := h.noShorter
  have hlonger' := h'.noShorter
  rw [hposition] at hholds
  constructor
  case rest => rw [h'.rest, h.rest, hboth, Nat.add_assoc]
  case holds => omega
  case noShorter => omega
  case shortOfTwice =>
    intro hgrown
    have htwice := h.shortOfTwice
    have htwice' := h'.shortOfTwice
    omega
  case inside =>
    intro i hi
    have hdata : data.data.size = data.size := rfl
    rw [ByteArray.data_append, Array.getElem?_append, hdata]
    by_cases hfirst : i < data.size
    · -- the second splice lies behind the first one
      have hinside := h.inside i hfirst
      have hkept := h'.outside (f.cursor.position + i) (by omega) (by omega)
      rw [if_pos hfirst, hkept, hinside, Array.getElem?_eq_getElem (hdata.symm ▸ hfirst), Option.getD_some]
    · have hinside := h'.inside (i - data.size) (by omega)
      rw [hposition, show f.cursor.position + data.size + (i - data.size) = f.cursor.position + i by omega] at hinside
      rw [if_neg hfirst, hinside]
  case outside =>
    intro i hi hapart
    rw [h'.outside i hi (by omega)]
    by_cases hold : i < f'.buffer.size
    · rw [h.outside i hold (by omega), Option.getD_some]
    · have hbuffer : f.buffer.data.size = f.buffer.size := rfl
      have hbuffer' : f'.buffer.data.size = f'.buffer.size := rfl
      rw [Array.getElem?_eq_none (by omega), Array.getElem?_eq_none (by omega)]

theorem spliced_of_writeAll {pieces : List ByteArray} (hplace : f.cursor.position ≤ f.buffer.size)
    (h : f.writeAll pieces = some f') : f.Spliced (joined pieces) f' := by
  induction pieces generalizing f with
  | nil =>
    obtain rfl := Option.some.inj h
    exact .nothing hplace
  | cons piece pieces ih =>
    obtain ⟨next, hnext, hrest⟩ := Option.bind_eq_some_iff.mp h
    exact (spliced_of_write hnext).trans (ih (position_le_of_write hnext) hrest)

/-- A file that does not stand past its end takes as many writes as end where buffers can. -/
theorem exists_writeAll {pieces : List ByteArray} (hplace : f.cursor.position ≤ f.buffer.size)
    (hbuffer : f.buffer.size ≤ maxCapacity) (h : f.cursor.position + (joined pieces).size ≤ 2 ^ 62) :
    ∃ f', f.writeAll pieces = some f' := by
  induction pieces generalizing f with
  | nil => exact ⟨f, rfl⟩
  | cons piece pieces ih =>
    rw [joined, ByteArray.size_append] at h
    have hroom : f.HasRoomFor piece := hasRoomFor_of_le hbuffer (by omega)
    obtain ⟨next, hnext⟩ := exists_write_of_hasRoomFor (.inr hplace) hroom
    obtain ⟨hposition, hsize⟩ := write_eq_some hnext
    obtain ⟨f', hf'⟩ := ih (position_le_of_write hnext) (hsize ▸ hroom) (by omega)
    exact ⟨f', Option.bind_eq_some_iff.mpr ⟨next, hnext, hf'⟩⟩

/-- What a file that was opened at its start holds: the bytes of the splice, what they have not reached
of the content, and zeros. -/
theorem Spliced.buffer_eq {name : String} {mode : Mode} {content : ByteArray}
    (h : (opened name mode content).Spliced data f') :
    f'.buffer = data ++ content.extract data.size content.size ++
      zeros (f'.buffer.size - max data.size content.size) := by
  have hholds : 0 + data.size ≤ f'.buffer.size := h.holds
  have hnoShorter : content.size ≤ f'.buffer.size := h.noShorter
  have hbuffer : f'.buffer.data.size = f'.buffer.size := rfl
  have hdata : data.data.size = data.size := rfl
  have hcontent : content.data.size = content.size := rfl
  refine ByteArray.ext (Array.ext_getElem? fun i => ?_)
  simp only [ByteArray.data_append, ByteArray.data_extract, Array.getElem?_append, Array.getElem?_extract,
    Array.size_append, Array.size_extract, hdata, hcontent]
  have hzeros : (zeros (f'.buffer.size - max data.size content.size)).data.size =
      f'.buffer.size - max data.size content.size := size_zeros _
  by_cases hi : i < f'.buffer.size
  · by_cases hinside : i < data.size
    · have hspliced : f'.buffer.data[0 + i]? = data.data[i]? := h.inside i hinside
      rw [Nat.zero_add] at hspliced
      rw [if_pos (by omega), if_pos hinside, hspliced]
    · have hold : f'.buffer.data[i]? = some (content.data[i]?.getD 0) :=
        h.outside i hi (.inr (by change 0 + _ ≤ _; omega))
      rw [hold]
      by_cases hreached : i < content.size
      · rw [if_pos (by omega), if_neg hinside, if_pos (by omega), show data.size + (i - data.size) = i by omega,
          Array.getElem?_eq_getElem (hcontent.symm ▸ hreached), Option.getD_some]
      · rw [if_neg (by omega), getElem?_zeros (by omega), Array.getElem?_eq_none (by omega), Option.getD_none]
  · rw [Array.getElem?_eq_none (by omega), if_neg (by omega), Array.getElem?_eq_none (by omega)]

/-! ## The law -/

/-- **A write is a splice, and several writes are one.**  A write of at least one byte has a file as
its result exactly if there is room for it, as there is up to the offset 2⁶² at least, and the file
is the old one with the bytes spliced in.  After any writes to a file that was opened at its start,
the bytes written stand before the cursor in order, and behind it what they have not reached of the
content, and zeros. -/
theorem write_splices :
    (∀ (f : RegularFile) (data : ByteArray), 0 < data.size →
      (f.HasRoomFor data → ∃ f', f.write data = some f' ∧ f.Spliced data f') ∧
      (¬ f.HasRoomFor data → f.write data = none) ∧
      (f.buffer.size ≤ maxCapacity → f.cursor.position + data.size ≤ 2 ^ 62 → f.HasRoomFor data)) ∧
    ∀ (name : String) (mode : Mode) (content : ByteArray) (pieces : List ByteArray),
      (∀ f', (opened name mode content).writeAll pieces = some f' →
        f'.cursor.position = (joined pieces).size ∧ f'.written = joined pieces ∧
        f'.buffer = joined pieces ++ content.extract (joined pieces).size content.size ++
          zeros (f'.buffer.size - max (joined pieces).size content.size)) ∧
      (content.size ≤ maxCapacity → (joined pieces).size ≤ 2 ^ 62 →
        ∃ f', (opened name mode content).writeAll pieces = some f') := by
  constructor
  · intro f data hdata
    refine ⟨fun hroom => ?_, write_eq_none_of_not_hasRoomFor, hasRoomFor_of_le⟩
    obtain ⟨f', hf'⟩ := exists_write_of_hasRoomFor (.inl hdata) hroom
    exact ⟨f', hf', spliced_of_write hf'⟩
  · intro name mode content pieces
    constructor
    · intro f' hf'
      have hspliced := spliced_of_writeAll (Nat.zero_le _) hf'
      have hposition : f'.cursor.position = (joined pieces).size := by
        rw [hspliced.rest]
        exact Nat.zero_add _
      refine ⟨hposition, ?_, hspliced.buffer_eq⟩
      rw [written, hposition, hspliced.buffer_eq, ByteArray.append_assoc]
      exact ByteArray.extract_append_eq_left rfl
    · intro hcontent hend
      exact exists_writeAll (Nat.zero_le _) hcontent ((Nat.zero_add _).symm ▸ hend)

/-- A file of two bytes whose cursor stands three bytes past the end. -/
def gapped : RegularFile :=
  { opened "a" .read "ab".toUTF8 with cursor := { Cursor.start with position := 5 } }

/-- Past the end of a file there is room, and zeros fill the gap; and three writes, one of no bytes,
over the front of a longer file leave its end. -/
theorem write_splices_past_end :
    (0 < "xyz".toUTF8.size ∧ gapped.HasRoomFor "xyz".toUTF8) ∧
      (∃ f', gapped.write "xyz".toUTF8 = some f' ∧ gapped.Spliced "xyz".toUTF8 f' ∧ f'.buffer.data[3]? = some 0) ∧
      ∃ f' k, (opened "b" .write "hello".toUTF8).writeAll ["a".toUTF8, .empty, "bc".toUTF8] = some f' ∧
        f'.written = "abc".toUTF8 ∧ f'.buffer = "abclo".toUTF8 ++ zeros k := by
  obtain ⟨hone, hmany⟩ := write_splices
  obtain ⟨hexists, -, hbounded⟩ := hone gapped "xyz".toUTF8 (by decide)
  have hroom : gapped.HasRoomFor "xyz".toUTF8 := hbounded (by decide) (by decide)
  obtain ⟨f', hf', hspliced⟩ := hexists hroom
  have hgap : f'.buffer.data[3]? = some 0 :=
    hspliced.outside 3 (Nat.lt_of_lt_of_le (by decide) hspliced.holds) (.inl (by decide))
  obtain ⟨hlaid, hends⟩ := hmany "b" .write "hello".toUTF8 ["a".toUTF8, .empty, "bc".toUTF8]
  obtain ⟨g, hg⟩ := hends (by decide) (by decide)
  obtain ⟨-, hwritten, hbuffer⟩ := hlaid g hg
  exact ⟨⟨by decide, hroom⟩, ⟨f', hf', hspliced, hgap⟩, g, _, hg, hwritten, hbuffer⟩

/-- An empty file whose cursor stands at the greatest offset that a buffer can end at. -/
def farOut : RegularFile :=
  { opened "out.dvi" .write .empty with cursor := { Cursor.start with position := 2 ^ 63 - 1 } }

/-- Not every file has a result for every write: no buffer goes on behind the greatest offset. -/
theorem far_write_refused :
    farOut.buffer.size ≤ maxCapacity ∧ 0 < "q".toUTF8.size ∧ ¬ ∃ f', farOut.write "q".toUTF8 = some f' := by
  refine ⟨by decide, by decide, ?_⟩
  rintro ⟨f', hf'⟩
  rw [write_eq_none_of_far (by decide) (by decide)] at hf'
  cases hf'

end Galley.RegularFile
