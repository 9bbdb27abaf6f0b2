import Galley.Proofs.File.LineReading

/-! # What an operation may change of the memory

A guest hands out places in its memory with every read, and they may overlap, lie outside, or
be too small.  Whatever it hands out, a read of bytes changes the place for the bytes, and in
it one byte at least, and a read of a line changes the place of the index past the line and
the line buffer behind the index that it starts at.  It changes no more where it fails after
it has written a part, and no other act changes anything (`memory_confined`).  The index that
a line is delivered with lies inside the buffer. -/
namespace Galley

/-- The second memory differs from the first at the offsets `P` at most. -/
structure Memory.ChangedWithin (P : Nat → Prop) (m m' : Memory) : Prop where
  size : m'.size = m.size
  byte : ∀ i, ¬ P i → m'.bytes.data[i]? = m.bytes.data[i]?

namespace Memory.ChangedWithin
variable {P : Nat → Prop} {m m' k : Memory}

theorem refl (P : Nat → Prop) (m : Memory) : m.ChangedWithin P m := ⟨rfl, fun _ _ => rfl⟩

theorem trans (h : m.ChangedWithin P m') (h' : m'.ChangedWithin P k) : m.ChangedWithin P k :=
  ⟨h'.size.trans h.size, fun i hi => (h'.byte i hi).trans (h.byte i hi)⟩

theorem mono {Q : Nat → Prop} (h : m.ChangedWithin P m') (hP : ∀ {i}, P i → Q i) : m.ChangedWithin Q m' :=
  ⟨h.size, fun i hi => h.byte i (mt hP hi)⟩

theorem patch {offset : Nat} {data : ByteArray} (hroom : offset + data.size ≤ m.size)
    (hP : ∀ i, offset ≤ i → i < offset + data.size → P i) : m.ChangedWithin P (m.patch offset data) where
  size := Memory.size_patch hroom
  byte i hi := by
    rw [Memory.patch, Memory.getElem?_splice hroom, if_neg]
    exact fun hinside => hi (hP i hinside.1 hinside.2)

/-- Writing to the second memory as well. -/
theorem andPatch {offset : Nat} {data : ByteArray} (h : m.ChangedWithin P m') (hroom : offset + data.size ≤ m.size)
    (hP : ∀ i, offset ≤ i → i < offset + data.size → P i) : m.ChangedWithin P (m'.patch offset data) :=
  h.trans (patch (h.size ▸ hroom) hP)

end Memory.ChangedWithin

/-- The place of the bytes that are read: there is always one for the mark at the end of a file. -/
def InBytes (pointer length i : Nat) : Prop := pointer ≤ i ∧ i < pointer + max length 1

/-- The places that a read of a line is given: that of the index past the line, and the line buffer
behind the index that the line starts at. -/
def LineRequest.Holds (r : LineRequest) (m : Memory) (i : Nat) : Prop :=
  (r.last ≤ i ∧ i < r.last + 4) ∨
    ∃ first, m.readWord r.first = .ok first ∧ r.buffer + first.toNat ≤ i ∧ i < r.buffer + r.capacity

/-- The offsets at which an act may change a memory. -/
inductive Act.MayChange (m : Memory) : Act → Nat → Prop where
  | bytes {m' handle pointer length i} (h : InBytes pointer.toNat length.toNat i) :
      MayChange m (.get m' handle pointer length) i
  | line {a r i} (hline : a.line? = some r) (h : r.Holds m i) : MayChange m a i

namespace Desk
open Operation

variable {α : Type} {d : Desk} {m : Memory} {handle : Int32} {f : OpenFile} {pointer length : Nat} {r : LineRequest}

/-- The seat that an operation leaves, whether it succeeds or not. -/
def leftBy : EStateM.Result FileFailure Seat α → Seat
  | .ok _ x => x
  | .error _ x => x

theorem leftBy_map {β : Type} (op : Operation α) (g : α → β) (x : Seat) : leftBy ((g <$> op) x) = leftBy (op x) := by
  change leftBy (EStateM.map g op x) = leftBy (op x)
  rw [EStateM.map]
  cases op x <;> rfl

theorem leftBy_toResult (o : Outcome α) (handle : Int32) (d : Desk) :
    leftBy (o.toResult handle d) = ⟨o.desk handle d, o.memory⟩ := by
  rw [Outcome.toResult]
  cases o.result <;> rfl

/-! ## Reading -/

theorem changedWithin_of_readEnds {o : Outcome Unit} (ho : ReadEnds m pointer length f o) :
    m.ChangedWithin (InBytes pointer length) o.memory := by
  have hone {value : UInt8} (hroom : pointer < m.size) :
      m.ChangedWithin (InBytes pointer length) (m.patch pointer (oneByte value)) := by
    refine .patch hroom fun i hlow hhigh => ⟨hlow, Nat.lt_of_lt_of_le hhigh ?_⟩
    exact Nat.add_le_add_left (Nat.le_max_right ..) pointer
  have hbytes {g : RegularFile} (hroom : pointer + length ≤ m.size) :
      m.ChangedWithin (InBytes pointer length) (m.patch pointer (slice g.buffer g.cursor.position length)) := by
    have hsize : (slice g.buffer g.cursor.position length).size ≤ length := size_readAtCursor_le g length
    refine .patch (Nat.le_trans (Nat.add_le_add_left hsize pointer) hroom) fun i hlow hhigh => ⟨hlow, ?_⟩
    omega
  cases ho with
  | screen | missing _ | outside _ _ | unmarked _ _ _ | typedOutside _ => exact .refl ..
  | nothing _ _ _ hmark => exact hone hmark
  | bytes _ hroom _ _ _ | beyond _ hroom _ _ _ => exact hbytes hroom
  | typed hroom _ | typedBeyond hroom _ => exact hone hroom

theorem changedWithin_of_lineEnds {content : ByteArray} {cursor : Cursor} {o : Outcome Bool}
    (ho : LineEnds m r f content cursor o) : m.ChangedWithin (r.Holds m) o.memory := by
  have hindex {w : UInt32} (i : Nat) (hlow : r.last ≤ i) (hhigh : i < r.last + (Memory.wordBytes w).size) :
      r.Holds m i := Or.inl ⟨hlow, hhigh⟩
  have hfirst {w : UInt32} (hlast : r.last + 4 ≤ m.size) :
      m.ChangedWithin (r.Holds m) (m.patch r.last (Memory.wordBytes w)) := .patch hlast hindex
  cases ho with
  | unreadable _ | unwritable _ _ => exact .refl ..
  | ended _ hlast _ | overflow _ hlast _ _ | beyond _ hlast _ _ _ | outside _ hlast _ _ _ => exact hfirst hlast
  | @delivered first line hword hlast _ _ hfits hroom =>
    refine ((hfirst hlast).andPatch hroom fun i hlow hhigh => ?_).andPatch hlast hindex
    -- the line lies between the index that it starts at and the end of the buffer
    exact Or.inr ⟨first, hword, hlow, by omega⟩

/-- The index past a line that was delivered lies inside the buffer. -/
theorem index_of_lineEnds {content : ByteArray} {cursor : Cursor} {o : Outcome Bool}
    (ho : LineEnds m r f content cursor o) (hmore : o.result = .ok true) :
    ∃ index, o.memory.readWord r.last = .ok index ∧ index.toNat ≤ r.capacity := by
  cases ho with
  | @delivered first line _ hlast _ _ hfits hroom =>
    refine ⟨_, Memory.readWord_patch ?_, ?_⟩
    · rw [Memory.size_patch (by rwa [Memory.size_patch hlast]), Memory.size_patch hlast]
      exact hlast
    · have htrimmed : trimmedLength line ≤ line.data.toList.length := length_dropTrailing_le ..
      have hlength : line.data.toList.length = line.size := Array.length_toList
      have hword : (UInt32.ofNat (first.toNat + trimmedLength line)).toNat ≤ first.toNat + trimmedLength line :=
        Nat.mod_le _ _
      omega
  | ended | unreadable | unwritable | overflow | beyond | outside => cases hmore

/-! ## All acts -/

theorem changedWithin_get (x : Seat) (handle : Int32) (pointer length : Nat) :
    x.memory.ChangedWithin (InBytes pointer length) (leftBy (get handle pointer length x)).memory := by
  rcases get_cases x handle pointer length with ⟨e, hop⟩ | ⟨f, o, -, hends, hop⟩
  · rw [hop]
    exact .refl ..
  · rw [hop, leftBy_toResult]
    exact changedWithin_of_readEnds hends

theorem changedWithin_inputLine (x : Seat) (handle : Int32) (r : LineRequest) :
    x.memory.ChangedWithin (r.Holds x.memory) (leftBy (inputLine handle r x)).memory := by
  rcases inputLine_cases x handle r with ⟨e, hop⟩ | ⟨f, content, cursor, o, -, -, hends, hop⟩
  · rw [hop]
    exact .refl ..
  · rw [hop, leftBy_toResult]
    exact changedWithin_of_lineEnds hends

theorem index_of_inputLine {x y : Seat} (hmore : inputLine handle r x = .ok true y) :
    ∃ index, y.memory.readWord r.last = .ok index ∧ index.toNat ≤ r.capacity := by
  rcases inputLine_cases x handle r with ⟨e, hop⟩ | ⟨f, content, cursor, o, -, -, hends, hop⟩
  · cases hop.symm.trans hmore
  · rw [hop, Outcome.toResult] at hmore
    split at hmore
    next hresult =>
      cases hmore
      exact index_of_lineEnds hends hresult
    next => cases hmore

/-- An act that only asks for something, or only changes the files, leaves the memory. -/
theorem memory_telling (answer : α → Act.Answer) (ask : Desk → Except FileError α) (x : Seat) :
    (leftBy (Act.telling answer ask x)).memory = x.memory := by
  rw [Act.telling]
  cases ask x.desk <;> rfl

theorem memory_altering (change : Desk → Except FileFailure Desk) (x : Seat) :
    (leftBy (Act.altering change x)).memory = x.memory := by
  rw [Act.altering]
  cases change x.desk <;> rfl

theorem changedWithin_operate (a : Act) (x : Seat) :
    x.memory.ChangedWithin (a.MayChange x.memory) (leftBy (a.operate x)).memory := by
  have hkept (h : (leftBy (a.operate x)).memory = x.memory) :
      x.memory.ChangedWithin (a.MayChange x.memory) (leftBy (a.operate x)).memory := h ▸ .refl ..
  cases a with
  | insert name content => exact hkept rfl
  | openFile name mode resuming => exact hkept rfl
  | openRaw raw mode resuming => exact hkept rfl
  | close handle => exact hkept (memory_telling _ (·.close handle) x)
  | atEnd handle => exact hkept (memory_telling _ (·.atEnd handle) x)
  | atLineEnd handle => exact hkept (memory_telling _ (·.atLineEnd handle) x)
  | status handle => exact hkept (memory_telling _ (·.status handle) x)
  | get m handle pointer length =>
    rw [Act.operate, leftBy_map]
    exact (changedWithin_get x handle pointer.toNat length.toNat).mono .bytes
  | put m handle pointer length =>
    exact hkept (memory_altering (·.put x.memory handle pointer.toNat length.toNat) x)
  | write handle data => exact hkept (memory_altering (·.write handle data) x)
  | inputLine m handle bypass buffer first last capacity =>
    rw [Act.operate, leftBy_map]
    exact (changedWithin_inputLine x handle _).mono (.line rfl)
  | finish => exact hkept rfl

/-- **Acts stay inside the places that they are given.**  Over any memory and with any addresses,
an act that succeeds, one that fails and one from which the host cannot go on all leave the
memory as large as it was, and the same outside the places that the act may change.  A line
that is delivered comes with an index inside the buffer. -/
theorem memory_confined (a : Act) (x : Seat) :
    x.memory.ChangedWithin (a.MayChange x.memory) (leftBy (a.operate x)).memory ∧
      ∀ r y, a.line? = some r → a.operate x = .ok (.flag true) y →
        ∃ index, y.memory.readWord r.last = .ok index ∧ index.toNat ≤ r.capacity := by
  refine ⟨changedWithin_operate a x, fun r y hline hmore => ?_⟩
  cases a with
  | inputLine m handle bypass buffer first last capacity =>
    cases hline
    obtain ⟨more, hop, hanswer⟩ := map_eq_ok hmore
    cases hanswer
    exact index_of_inputLine hop
  | _ => cases hline

/-- A line of one byte is delivered, and nothing behind the line buffer has changed. -/
theorem memory_confined_line :
    let reading := Act.inputLine lineBuffer 0 false 16 0 4 8
    ∃ y, reading.operate ⟨opened "a".toUTF8, lineBuffer⟩ = .ok (.flag true) y ∧
      (∀ i, 24 ≤ i → y.memory.bytes.data[i]? = lineBuffer.bytes.data[i]?) ∧
      ∃ index, y.memory.readWord 4 = .ok index ∧ index.toNat ≤ 8 := by
  intro reading
  let x : Seat := ⟨opened "a".toUTF8, lineBuffer⟩
  have hline : lineAt "a".toUTF8 0 = "a".toUTF8 := lineAt_eq (by decide)
  obtain ⟨-, -, -, hreply⟩ := shows_line false (file_opened "a".toUTF8) rfl (by decide) hline (by decide)
  obtain ⟨y, hop⟩ : ∃ y, reading.operate x = .ok (.flag true) y := by
    have hresult : (reading.reply x.desk).result = .ok (.flag true) := congrArg Act.Reply.result hreply
    rw [Act.reply] at hresult
    split at hresult
    next answer y hop =>
      cases hresult
      exact ⟨y, hop⟩
    next => cases hresult
  have hbehind {i : Nat} (hi : 24 ≤ i) : ¬ Act.MayChange lineBuffer (.inputLine lineBuffer 0 false 16 0 4 8) i := by
    intro hmay
    cases hmay with
    | line hline hholds =>
      cases hline
      rcases hholds with ⟨-, hlast⟩ | ⟨-, -, -, hbuffer⟩
      · exact absurd hlast (Nat.not_lt.mpr (Nat.le_trans (by decide) hi))
      · exact absurd hbuffer (Nat.not_lt.mpr hi)
  obtain ⟨hchanged, hindex⟩ := memory_confined reading x
  rw [hop] at hchanged
  exact ⟨y, hop, fun i hi => hchanged.byte i (hbehind hi), hindex _ y rfl hop⟩

end Desk
end Galley
