import Galley.Proofs.File.Aborting
import Galley.Proofs.File.Independence

/-! # What a read comes to

A read of bytes and a read of a line use the file behind the handle and the memory, and
nothing else of a seat.  All that they can come to is listed once, with what makes each of
it happen: `ReadEnds` for bytes and `LineEnds` for lines.  An `Outcome` has the result, the
file and the memory as they then are, errors included, and whether the run is finished.

An act elsewhere leaves the file.  So what every act on a handle keeps of its file holds of
the file at the end of a run, in terms of the acts on the handle and their replies
(`file_of_run`), or of the acts alone that do more than ask (`file_of_works`). -/
namespace Galley

/-- The memory with `data` from `offset` on. -/
def Memory.patch (m : Memory) (offset : Nat) (data : ByteArray) : Memory := ⟨splice m.bytes offset data⟩

theorem Memory.size_patch {m : Memory} {offset : Nat} {data : ByteArray} (h : offset + data.size ≤ m.size) :
    (m.patch offset data).size = m.size := size_splice h

theorem Memory.read_eq_ok {m : Memory} {offset length : Nat} (h : offset + length ≤ m.size) :
    m.read offset length = .ok (slice m.bytes offset length) := by
  rw [read, covers, if_pos (decide_eq_true h)]

/-- What an operation on an open file comes to. -/
structure Desk.Outcome (α : Type) where
  result : Except FileFailure α
  file : OpenFile
  memory : Memory
  /-- The run is finished. -/
  finishes : Bool

namespace Desk.Outcome
variable {α : Type}

/-- The desk that is left of one at which the file is behind a handle. -/
def desk (o : Outcome α) (handle : Int32) (d : Desk) : Desk :=
  if o.finishes then (d.setFile handle o.file).finish else d.setFile handle o.file

/-- The outcome as the result of an operation. -/
def toResult (o : Outcome α) (handle : Int32) (d : Desk) : EStateM.Result FileFailure Desk.Seat α :=
  match o.result with
  | .ok a => .ok a ⟨o.desk handle d, o.memory⟩
  | .error e => .error e ⟨o.desk handle d, o.memory⟩

end Desk.Outcome

/-- The byte that is typed at a position of a script; past its end, the carriage return. -/
def typedAt (script : ByteArray) (position : Nat) : UInt8 := (byteAt? script position).getD 0x0D

/-- The cursor of a script that is read at its end. -/
def Cursor.typed (cursor : Cursor) (script : ByteArray) : Cursor :=
  { cursor with atEnd := cursor.atEnd || decide (script.size ≤ cursor.position) }

/-- The cursor behind the terminator that a read of a line skips. -/
def Cursor.skipped (cursor : Cursor) (bypass : Bool) : Cursor :=
  { cursor with
    linePosition := cursor.linePosition + if bypass && !cursor.atEnd && cursor.atLineEnd then 1 else 0 }

/-- The content and the cursor of a file that can be read. -/
def OpenFile.source? : OpenFile → Option (ByteArray × Cursor)
  | .keyboard content cursor => some (content, cursor)
  | .screen => none
  | .regular f => some (f.buffer, f.cursor)

/-- The file is the terminal's script. -/
def OpenFile.isKeyboard : OpenFile → Bool
  | .keyboard .. => true
  | _ => false

/-- The cursor after bytes of which the first is `first`. -/
def Cursor.moved (cursor : Cursor) (first : UInt8) (length : Nat) : Cursor :=
  { cursor with atLineEnd := Desk.endsLine first, position := cursor.position + length }

/-- The line that an act asks for. -/
def Act.line? : Act → Option LineRequest
  | inputLine _ _ bypass buffer first last capacity =>
    some ⟨bypass, buffer.toNat, first.toNat, last.toNat, capacity.toNat⟩
  | _ => none

/-- The act leaves the file as it is: it asks how the file stands, or closes it. -/
def Act.asks : Act → Bool
  | close _ | atEnd _ | atLineEnd _ | status _ => true
  | _ => false

namespace Desk
open Operation

variable {α β : Type} {d : Desk} {m : Memory} {x x' : Seat} {handle : Int32} {f : OpenFile} {offset length : Nat}

/-! ## The steps of an operation -/

theorem setFile_self (hfile : d.file handle = .ok f) : d.setFile handle f = d := by
  obtain ⟨hlt, hget⟩ := Array.getElem?_eq_some_iff.mp (getElem?_of_file hfile)
  have htable : d.table.setIfInBounds handle.toInt.toNat f = d.table := by
    rw [Array.setIfInBounds_def, dif_pos hlt, ← hget, Array.set_getElem_self]
  exact congrArg (fun table => { d with table }) htable

/-- An error that leaves the file. -/
theorem toResult_kept (hfile : d.file handle = .ok f) (e : FileFailure) (m : Memory) :
    (⟨.error e, f, m, false⟩ : Outcome α).toResult handle d = .error e ⟨d, m⟩ := by
  have hdesk : (⟨.error e, f, m, false⟩ : Outcome α).desk handle d = d := setFile_self hfile
  rw [Outcome.toResult, hdesk]

theorem setFile_setFile (d : Desk) (handle : Int32) (f g : OpenFile) :
    (d.setFile handle f).setFile handle g = d.setFile handle g := by
  simp only [setFile, Array.setIfInBounds_setIfInBounds]

theorem access_of_covers {data : ByteArray} (h : offset + data.size ≤ m.size) :
    access (Memory.write offset data) ⟨d, m⟩ = .ok () ⟨d, m.patch offset data⟩ := by
  rw [access, Memory.write_eq_ok h]
  rfl

theorem access_of_not_covers {data : ByteArray} (h : m.size < offset + data.size) :
    access (Memory.write offset data) ⟨d, m⟩ = .error (.error (.memory (m.fault offset data.size))) ⟨d, m⟩ := by
  rw [access, Memory.write, Memory.covers, if_neg (by simpa using h)]

theorem access_of_covers_byte {value : UInt8} (h : offset < m.size) :
    access (Memory.writeByte offset value) ⟨d, m⟩ = .ok () ⟨d, m.patch offset (oneByte value)⟩ := access_of_covers h

theorem access_of_not_covers_byte {value : UInt8} (h : m.size ≤ offset) :
    access (Memory.writeByte offset value) ⟨d, m⟩ = .error (.error (.memory (m.fault offset 1))) ⟨d, m⟩ :=
  access_of_not_covers (Nat.lt_succ_of_le h)

theorem look_of_covers (h : offset + length ≤ m.size) :
    look (·.read offset length) ⟨d, m⟩ = .ok (slice m.bytes offset length) ⟨d, m⟩ := by
  rw [look, Memory.read_eq_ok h]

theorem look_of_not_covers (h : m.size < offset + length) :
    look (·.read offset length) ⟨d, m⟩ = .error (.error (.memory (m.fault offset length))) ⟨d, m⟩ := by
  rw [look, Memory.read, Memory.covers, if_neg (by simpa using h)]

/-! ## Reading bytes -/

theorem byteAt?_eq (bytes : ByteArray) (i : Nat) : byteAt? bytes i = bytes.data[i]? := by
  rw [byteAt?]
  split
  next h => exact (Array.getElem?_eq_getElem h).symm
  next h => exact (Array.getElem?_eq_none (Nat.le_of_not_lt h)).symm

theorem lt_of_byteAt?_eq_some {bytes : ByteArray} {i : Nat} {b : UInt8} (h : byteAt? bytes i = some b) :
    i < bytes.size := by
  by_contra hle
  rw [byteAt?_eq_none_iff.mpr (Nat.le_of_not_lt hle)] at h
  cases h

/-- The first of the bytes at the cursor. -/
theorem byteAt?_readAtCursor (f : RegularFile) (length : Nat) :
    byteAt? (f.readAtCursor length) 0 = if length = 0 then none else byteAt? f.buffer f.cursor.position := by
  rw [byteAt?_eq, byteAt?_eq, RegularFile.readAtCursor, slice, ByteArray.data_extract, Array.getElem?_extract]
  grind

theorem size_readAtCursor_le (f : RegularFile) (length : Nat) : (f.readAtCursor length).size ≤ length := by
  rw [RegularFile.readAtCursor, slice, ByteArray.size_extract]
  omega

/-- **All that a read of bytes comes to.**  It ends with an error where the memory has no place
for what is asked for, and the host cannot go on where no position is left. -/
inductive ReadEnds (m : Memory) (pointer length : Nat) : OpenFile → Outcome Unit → Prop where
  | screen : ReadEnds m pointer length .screen ⟨.error (.error (.misuse .getFromScreen)), .screen, m, false⟩
  | missing {f : RegularFile} (h : f.isOpen = false) :
      ReadEnds m pointer length (.regular f) ⟨.ok (), .regular { f with cursor := exhaust f.cursor }, m, false⟩
  | outside {f : RegularFile} (h : f.isOpen = true) (hroom : m.size < pointer + length) :
      ReadEnds m pointer length (.regular f)
        ⟨.error (.error (.memory (m.fault pointer length))), .regular f, m, false⟩
  | nothing {f : RegularFile} (h : f.isOpen = true) (hroom : pointer + length ≤ m.size)
      (hnothing : length = 0 ∨ f.buffer.size ≤ f.cursor.position) (hmark : pointer < m.size) :
      ReadEnds m pointer length (.regular f)
        ⟨.ok (), .regular { f with cursor := exhaust f.cursor }, m.patch pointer (oneByte 0), false⟩
  | unmarked {f : RegularFile} (h : f.isOpen = true) (hnothing : length = 0) (hmark : m.size ≤ pointer) :
      ReadEnds m pointer length (.regular f)
        ⟨.error (.error (.memory (m.fault pointer 1))), .regular f, m, false⟩
  | bytes {f : RegularFile} {first : UInt8} (h : f.isOpen = true) (hroom : pointer + length ≤ m.size)
      (hlength : 0 < length) (hfirst : byteAt? f.buffer f.cursor.position = some first)
      (hword : f.cursor.position + length < wordBound) :
      ReadEnds m pointer length (.regular f)
        ⟨.ok (), .regular { f with cursor := f.cursor.moved first length },
          m.patch pointer (slice f.buffer f.cursor.position length), false⟩
  | beyond {f : RegularFile} {first : UInt8} (h : f.isOpen = true) (hroom : pointer + length ≤ m.size)
      (hlength : 0 < length) (hfirst : byteAt? f.buffer f.cursor.position = some first)
      (hword : wordBound ≤ f.cursor.position + length) :
      ReadEnds m pointer length (.regular f)
        ⟨.error .abort, .regular f, m.patch pointer (slice f.buffer f.cursor.position length), false⟩
  | typed {script : ByteArray} {cursor : Cursor} (hroom : pointer < m.size)
      (hword : cursor.position + length < wordBound) :
      ReadEnds m pointer length (.keyboard script cursor)
        ⟨.ok (), .keyboard script ((cursor.typed script).moved (typedAt script cursor.position) length),
          m.patch pointer (oneByte (typedAt script cursor.position)), decide (script.size ≤ cursor.position)⟩
  | typedOutside {script : ByteArray} {cursor : Cursor} (hroom : m.size ≤ pointer) :
      ReadEnds m pointer length (.keyboard script cursor)
        ⟨.error (.error (.memory (m.fault pointer 1))), .keyboard script (cursor.typed script), m, false⟩
  | typedBeyond {script : ByteArray} {cursor : Cursor} (hroom : pointer < m.size)
      (hword : wordBound ≤ cursor.position + length) :
      ReadEnds m pointer length (.keyboard script cursor)
        ⟨.error .abort, .keyboard script (cursor.typed script),
          m.patch pointer (oneByte (typedAt script cursor.position)), false⟩

theorem advance_of_lt {cursor : Cursor} {first : UInt8} (h : cursor.position + length < wordBound) (x : Seat) :
    advance cursor first length x = .ok (cursor.moved first length) x := by
  rw [advance, if_pos h]
  rfl

theorem advance_of_le {cursor : Cursor} {first : UInt8} (h : wordBound ≤ cursor.position + length) (x : Seat) :
    advance cursor first length x = .error .abort x := by
  rw [advance, if_neg (Nat.not_lt.mpr h)]
  rfl

/-- What a read of an open file does where the memory has a place for what is asked for. -/
theorem readEnds_of_room {f : RegularFile} (hfile : d.file handle = .ok (.regular f)) (hopen : f.isOpen = true)
    {m : Memory} {pointer length : Nat} (hroom : pointer + length ≤ m.size) :
    ∃ o, ReadEnds m pointer length (.regular f) o ∧
      getRegular handle f pointer length ⟨d, m⟩ = o.toResult handle d := by
  have hkept (e : FileFailure) (m : Memory) := toResult_kept (α := Unit) hfile e m
  rw [getRegular, if_neg (by simp [hopen]), bind_of_ok (look_of_covers hroom)]
  have hdata := byteAt?_readAtCursor f length
  cases hbyte : byteAt? (f.readAtCursor length) 0 with
  | none =>
    have hnothing : length = 0 ∨ f.buffer.size ≤ f.cursor.position := by
      by_cases hlength : length = 0
      · exact Or.inl hlength
      · rw [hbyte, if_neg hlength] at hdata
        exact Or.inr (byteAt?_eq_none_iff.mp hdata.symm)
    by_cases hmark : pointer < m.size
    · refine ⟨_, .nothing hopen hroom hnothing hmark, ?_⟩
      exact bind_of_ok (access_of_covers_byte hmark)
    · have hmark := Nat.le_of_not_lt hmark
      refine ⟨_, .unmarked hopen (by omega) hmark, ?_⟩
      exact (bind_of_error (access_of_not_covers_byte hmark)).trans (hkept ..).symm
  | some first =>
    have hlength : length ≠ 0 := by
      intro hlength
      rw [hbyte, if_pos hlength] at hdata
      cases hdata
    rw [hbyte, if_neg hlength] at hdata
    have hsize := Nat.le_trans (Nat.add_le_add_left (size_readAtCursor_le f length) pointer) hroom
    by_cases hword : f.cursor.position + length < wordBound
    · refine ⟨_, .bytes hopen hroom (Nat.pos_of_ne_zero hlength) hdata.symm hword, ?_⟩
      refine (bind_of_ok (access_of_covers hsize)).trans ?_
      exact bind_of_ok (advance_of_lt hword _)
    · have hword := Nat.le_of_not_lt hword
      refine ⟨_, .beyond hopen hroom (Nat.pos_of_ne_zero hlength) hdata.symm hword, ?_⟩
      refine (bind_of_ok (access_of_covers hsize)).trans ?_
      exact (bind_of_error (advance_of_le hword _)).trans (hkept ..).symm

theorem readEnds_getRegular {f : RegularFile} (hfile : d.file handle = .ok (.regular f)) (m : Memory)
    (pointer length : Nat) :
    ∃ o, ReadEnds m pointer length (.regular f) o ∧
      getRegular handle f pointer length ⟨d, m⟩ = o.toResult handle d := by
  by_cases hopen : f.isOpen = true
  · by_cases hroom : pointer + length ≤ m.size
    · exact readEnds_of_room hfile hopen hroom
    · have hroom := Nat.lt_of_not_le hroom
      refine ⟨_, .outside hopen hroom, ?_⟩
      rw [getRegular, if_neg (by simp [hopen])]
      exact (bind_of_error (look_of_not_covers hroom)).trans (toResult_kept hfile ..).symm
  · refine ⟨_, .missing (Bool.eq_false_iff.mpr hopen), ?_⟩
    rw [getRegular, if_pos (by simp [hopen])]
    rfl

theorem typed_of_lt {script : ByteArray} {cursor : Cursor} (h : cursor.position < script.size) :
    cursor.typed script = cursor := by
  rw [Cursor.typed, decide_eq_false (Nat.not_le.mpr h), Bool.or_false]

theorem typed_of_le {script : ByteArray} {cursor : Cursor} (h : script.size ≤ cursor.position) :
    cursor.typed script = { cursor with atEnd := true } := by
  rw [Cursor.typed, decide_eq_true h, Bool.or_true]

variable {script : ByteArray} {cursor : Cursor}

/-- A read at the terminal before the end of the script. -/
theorem readEnds_of_lt (hfile : d.file handle = .ok (.keyboard script cursor)) (h : cursor.position < script.size)
    (m : Memory) (pointer length : Nat) :
    ∃ o, ReadEnds m pointer length (.keyboard script cursor) o ∧
      getKeyboard handle script cursor pointer length ⟨d, m⟩ = o.toResult handle d := by
  have hkept (e : FileFailure) (m : Memory) :
      (⟨.error e, .keyboard script (cursor.typed script), m, false⟩ : Outcome Unit).toResult handle d =
        .error e ⟨d, m⟩ := by
    rw [typed_of_lt h]
    exact toResult_kept hfile e m
  have hbyte : byteAt? script cursor.position = some script[cursor.position] := dif_pos h
  have htyped : typedAt script cursor.position = script[cursor.position] := by rw [typedAt, hbyte, Option.getD_some]
  rw [getKeyboard, hbyte]
  by_cases hroom : pointer < m.size
  · have hwrite : access (Memory.writeByte pointer script[cursor.position]) ⟨d, m⟩ = _ := access_of_covers_byte hroom
    by_cases hword : cursor.position + length < wordBound
    · refine ⟨_, .typed hroom hword, ?_⟩
      rw [htyped, typed_of_lt h, decide_eq_false (Nat.not_le.mpr h)]
      exact (bind_of_ok hwrite).trans (bind_of_ok (advance_of_lt hword _))
    · have hword := Nat.le_of_not_lt hword
      refine ⟨_, .typedBeyond hroom hword, ?_⟩
      rw [htyped, hkept]
      exact (bind_of_ok hwrite).trans (bind_of_error (advance_of_le hword _))
  · have hroom := Nat.le_of_not_lt hroom
    exact ⟨_, .typedOutside hroom, (bind_of_error (access_of_not_covers_byte hroom)).trans (hkept ..).symm⟩

/-- A read at the terminal at the end of the script. -/
theorem readEnds_of_le (d : Desk) (h : script.size ≤ cursor.position) (m : Memory) (pointer length : Nat) :
    ∃ o, ReadEnds m pointer length (.keyboard script cursor) o ∧
      getKeyboard handle script cursor pointer length ⟨d, m⟩ = o.toResult handle d := by
  have hbyte : byteAt? script cursor.position = none := byteAt?_eq_none_iff.mpr h
  have htyped : typedAt script cursor.position = 0x0D := by rw [typedAt, hbyte, Option.getD_none]
  let ended : Cursor := { cursor with atEnd := true }
  let d' := d.setFile handle (.keyboard script ended)
  have hmove : setCursor handle (.keyboard script cursor) ended ⟨d, m⟩ = .ok () ⟨d', m⟩ := rfl
  have hended : cursor.typed script = ended := typed_of_le h
  rw [getKeyboard, hbyte]
  dsimp only
  by_cases hroom : pointer < m.size
  · have hwrite : access (Memory.writeByte pointer 0x0D) ⟨d', m⟩ = _ := access_of_covers_byte hroom
    by_cases hword : ended.position + length < wordBound
    · refine ⟨_, .typed hroom hword, ?_⟩
      rw [htyped, hended, decide_eq_true h, bind_of_ok hmove, bind_of_ok hwrite,
        bind_of_ok (advance_of_lt hword _)]
      have hset := setFile_setFile d handle (.keyboard script ended) (.keyboard script (ended.moved 0x0D length))
      exact congrArg (fun d : Desk => EStateM.Result.ok () (Seat.mk d.finish (m.patch pointer (oneByte 0x0D)))) hset
    · have hword := Nat.le_of_not_lt hword
      refine ⟨_, .typedBeyond hroom hword, ?_⟩
      rw [htyped, hended, bind_of_ok hmove, bind_of_ok hwrite,
        bind_of_error (advance_of_le hword _)]
      rfl
  · have hroom := Nat.le_of_not_lt hroom
    refine ⟨_, .typedOutside hroom, ?_⟩
    rw [hended, bind_of_ok hmove, bind_of_error (access_of_not_covers_byte hroom)]
    rfl

/-- **A read of bytes comes to nothing else.** -/
theorem readEnds_of_get (hfile : d.file handle = .ok f) (m : Memory) (pointer length : Nat) :
    ∃ o, ReadEnds m pointer length f o ∧ get handle pointer length ⟨d, m⟩ = o.toResult handle d := by
  have hlook : Operation.file handle ⟨d, m⟩ = .ok f ⟨d, m⟩ := by rw [Operation.file, hfile]
  rw [get, bind_of_ok hlook]
  cases f with
  | keyboard script cursor =>
    rcases Nat.lt_or_ge cursor.position script.size with h | h
    · exact readEnds_of_lt hfile h m pointer length
    · exact readEnds_of_le d h m pointer length
  | screen => exact ⟨_, .screen, (toResult_kept hfile ..).symm⟩
  | regular f => exact readEnds_getRegular hfile m pointer length

/-! ## Reading a line -/

/-- **All that a read of a line comes to**, from a file with this content and with this cursor once
a terminator has been skipped.  What is skipped stays skipped when there is no place for the
line. -/
inductive LineEnds (m : Memory) (r : LineRequest) (f : OpenFile) (content : ByteArray) (cursor : Cursor) :
    Outcome Bool → Prop where
  | unreadable (hroom : m.size < r.first + 4) :
      LineEnds m r f content cursor ⟨.error (.error (.memory (m.fault r.first 4))), f, m, false⟩
  | unwritable {first : UInt32} (hfirst : m.readWord r.first = .ok first) (hroom : m.size < r.last + 4) :
      LineEnds m r f content cursor ⟨.error (.error (.memory (m.fault r.last 4))), f, m, false⟩
  | ended {first : UInt32} (hfirst : m.readWord r.first = .ok first) (hlast : r.last + 4 ≤ m.size)
      (hend : content.size ≤ cursor.linePosition) :
      LineEnds m r f content cursor
        ⟨.ok false, f.withCursor { cursor with atEnd := true }, m.patch r.last (Memory.wordBytes first),
          f.isKeyboard⟩
  | overflow {first : UInt32} (hfirst : m.readWord r.first = .ok first) (hlast : r.last + 4 ≤ m.size)
      (hmore : cursor.linePosition < content.size)
      (hfits : r.capacity < first.toNat + (lineAt content cursor.linePosition).size) :
      LineEnds m r f content cursor
        ⟨.error (.error (.lineOverflow (lineAt content cursor.linePosition).size (r.capacity - first.toNat))),
          f.withCursor cursor, m.patch r.last (Memory.wordBytes first), false⟩
  | beyond {first : UInt32} (hfirst : m.readWord r.first = .ok first) (hlast : r.last + 4 ≤ m.size)
      (hmore : cursor.linePosition < content.size)
      (hfits : first.toNat + (lineAt content cursor.linePosition).size ≤ r.capacity)
      (hword : wordBound ≤ r.buffer + first.toNat) :
      LineEnds m r f content cursor
        ⟨.error .abort, f.withCursor cursor, m.patch r.last (Memory.wordBytes first), false⟩
  | outside {first : UInt32} (hfirst : m.readWord r.first = .ok first) (hlast : r.last + 4 ≤ m.size)
      (hmore : cursor.linePosition < content.size)
      (hfits : first.toNat + (lineAt content cursor.linePosition).size ≤ r.capacity)
      (hroom : m.size < r.buffer + first.toNat + (lineAt content cursor.linePosition).size) :
      LineEnds m r f content cursor
        ⟨.error (.error (.memory (m.fault (r.buffer + first.toNat) (lineAt content cursor.linePosition).size))),
          f.withCursor cursor, m.patch r.last (Memory.wordBytes first), false⟩
  | delivered {first : UInt32} {line : ByteArray} (hfirst : m.readWord r.first = .ok first)
      (hlast : r.last + 4 ≤ m.size) (hmore : cursor.linePosition < content.size)
      (hline : lineAt content cursor.linePosition = line) (hfits : first.toNat + line.size ≤ r.capacity)
      (hroom : r.buffer + first.toNat + line.size ≤ m.size) :
      LineEnds m r f content cursor
        ⟨.ok true, f.withCursor { cursor with linePosition := cursor.linePosition + line.size, atLineEnd := true },
          ((m.patch r.last (Memory.wordBytes first)).patch (r.buffer + first.toNat) line).patch r.last
            (Memory.wordBytes (UInt32.ofNat (first.toNat + trimmedLength line))), false⟩

theorem setFile_withCursor (d : Desk) (handle : Int32) (f : OpenFile) (cursor cursor' : Cursor) :
    (d.setFile handle (f.withCursor cursor)).setFile handle (f.withCursor cursor') =
      d.setFile handle (f.withCursor cursor') := setFile_setFile ..

theorem readWord_cases (m : Memory) (offset : Nat) :
    (offset + 4 ≤ m.size ∧ ∃ word, m.readWord offset = .ok word) ∨
      (m.size < offset + 4 ∧ m.readWord offset = .error (m.fault offset 4)) := by
  rw [Memory.readWord, Memory.read, Memory.covers]
  by_cases hroom : offset + 4 ≤ m.size
  · rw [if_pos (decide_eq_true hroom)]
    exact Or.inl ⟨hroom, _, rfl⟩
  · rw [if_neg (by simpa using hroom)]
    exact Or.inr ⟨Nat.lt_of_not_le hroom, rfl⟩

theorem room_of_readWord {w : UInt32} (h : m.readWord offset = .ok w) : offset + 4 ≤ m.size := by
  rcases readWord_cases m offset with ⟨hroom, -⟩ | ⟨-, hfault⟩
  · exact hroom
  · cases h.symm.trans hfault

/-- What a read of a line comes to once its terminator is skipped and the index is written. -/
theorem lineEnds_of_covers {content : ByteArray} {cursor : Cursor} {r : LineRequest} {first : UInt32}
    (hfirst : m.readWord r.first = .ok first) (hlast : r.last + 4 ≤ m.size) (d : Desk) (handle : Int32) (f : OpenFile) :
    ∃ o, LineEnds m r f content (cursor.skipped r.bypass) o ∧
      lineFrom handle f content cursor f.isKeyboard r ⟨d, m⟩ = o.toResult handle d := by
  let m' := m.patch r.last (Memory.wordBytes first)
  have hlook : look (·.readWord r.first) ⟨d, m⟩ = .ok first ⟨d, m⟩ := by rw [look, hfirst]
  have hwrite : access (Memory.writeWord r.last first) ⟨d, m⟩ = .ok () ⟨d, m'⟩ := access_of_covers hlast
  have hsize : m'.size = m.size := Memory.size_patch hlast
  rw [lineFrom, bind_of_ok hlook, bind_of_ok hwrite, Cursor.skipped]
  generalize (if (r.bypass && !cursor.atEnd && cursor.atLineEnd) = true then 1 else 0) = skip
  let start : Cursor := { cursor with linePosition := cursor.linePosition + skip }
  let d' := d.setFile handle (f.withCursor start)
  have hmove : setCursor handle f start ⟨d, m'⟩ = .ok () ⟨d', m'⟩ := rfl
  have hset (cursor : Cursor) := setFile_withCursor d handle f start cursor
  by_cases hmore : start.linePosition < content.size
  · rw [if_neg (Nat.not_le.mpr hmore)]
    let line := lineAt content start.linePosition
    by_cases hfits : first.toNat + line.size ≤ r.capacity
    · rw [if_neg (Nat.not_lt.mpr hfits)]
      by_cases hword : r.buffer + first.toNat < wordBound
      · rw [if_neg (Nat.not_le.mpr hword)]
        by_cases hroom : r.buffer + first.toNat + line.size ≤ m.size
        · refine ⟨_, .delivered hfirst hlast hmore rfl hfits hroom, ?_⟩
          have hplace : r.buffer + first.toNat + line.size ≤ m'.size := by rwa [hsize]
          have hput : access (Memory.write (r.buffer + first.toNat) line) ⟨d', m'⟩ =
              .ok () ⟨d', m'.patch (r.buffer + first.toNat) line⟩ := access_of_covers hplace
          have hlast' : r.last + 4 ≤ (m'.patch (r.buffer + first.toNat) line).size := by
            rwa [Memory.size_patch hplace, hsize]
          refine (bind_of_ok hmove).trans ((bind_of_ok hput).trans ?_)
          refine (bind_of_ok (access_of_covers hlast')).trans ?_
          exact congrArg (fun d => EStateM.Result.ok true (Seat.mk d _)) (hset _)
        · have hroom := Nat.lt_of_not_le hroom
          refine ⟨_, .outside hfirst hlast hmore hfits hroom, ?_⟩
          have hplace : m'.size < r.buffer + first.toNat + line.size := by rwa [hsize]
          have hput : access (Memory.write (r.buffer + first.toNat) line) ⟨d', m'⟩ = _ :=
            access_of_not_covers hplace
          refine (bind_of_ok hmove).trans ((bind_of_error hput).trans ?_)
          rw [Memory.fault, hsize]
          rfl
      · have hword := Nat.le_of_not_lt hword
        rw [if_pos hword]
        exact ⟨_, .beyond hfirst hlast hmore hfits hword, rfl⟩
    · have hfits := Nat.lt_of_not_le hfits
      rw [if_pos hfits]
      exact ⟨_, .overflow hfirst hlast hmore hfits, rfl⟩
  · have hend := Nat.le_of_not_lt hmore
    refine ⟨_, .ended hfirst hlast hend, ?_⟩
    rw [if_pos hend]
    refine (bind_of_ok hmove).trans ?_
    cases hkeyboard : f.isKeyboard with
    | true => exact congrArg (fun d : Desk => EStateM.Result.ok false (Seat.mk d.finish m')) (hset _)
    | false => exact congrArg (fun d : Desk => EStateM.Result.ok false (Seat.mk d m')) (hset _)

/-- **A read of a line comes to nothing else.** -/
theorem lineEnds_of_inputLine {content : ByteArray} {cursor : Cursor} (hfile : d.file handle = .ok f)
    (hsource : f.source? = some (content, cursor)) (m : Memory) (r : LineRequest) :
    ∃ o, LineEnds m r f content (cursor.skipped r.bypass) o ∧ inputLine handle r ⟨d, m⟩ = o.toResult handle d := by
  have hlook : Operation.file handle ⟨d, m⟩ = .ok f ⟨d, m⟩ := by rw [Operation.file, hfile]
  have hline : inputLine handle r ⟨d, m⟩ = lineFrom handle f content cursor f.isKeyboard r ⟨d, m⟩ := by
    rw [inputLine, bind_of_ok hlook]
    cases f with
    | keyboard script cursor => cases hsource; rfl
    | screen => cases hsource
    | regular f => cases hsource; rfl
  rw [hline]
  rcases readWord_cases m r.first with ⟨-, first, hfirst⟩ | ⟨hroom, hfirst⟩
  · by_cases hlast : r.last + 4 ≤ m.size
    · exact lineEnds_of_covers hfirst hlast d handle f
    · have hlast := Nat.lt_of_not_le hlast
      refine ⟨_, .unwritable hfirst hlast, ?_⟩
      have hread : look (·.readWord r.first) ⟨d, m⟩ = .ok first ⟨d, m⟩ := by rw [look, hfirst]
      have hwrite : access (Memory.writeWord r.last first) ⟨d, m⟩ = _ := access_of_not_covers hlast
      rw [lineFrom, bind_of_ok hread]
      exact (bind_of_error hwrite).trans (toResult_kept hfile ..).symm
  · refine ⟨_, .unreadable hroom, ?_⟩
    have hread : look (·.readWord r.first) ⟨d, m⟩ = .error (.error (.memory (m.fault r.first 4))) ⟨d, m⟩ := by
      rw [look, hfirst]
    rw [lineFrom, bind_of_error hread, toResult_kept hfile]

/-! ## Which end a read of a line comes to -/

namespace LineEnds
variable {content line : ByteArray} {cursor : Cursor} {r : LineRequest} {start : UInt32} {o : Outcome Bool}

/-- A line that has room is delivered. -/
theorem eq_delivered (ho : LineEnds m r f content cursor o) (hfirst : m.readWord r.first = .ok start)
    (hlast : r.last + 4 ≤ m.size) (hmore : cursor.linePosition < content.size)
    (hline : lineAt content cursor.linePosition = line) (hbuffer : r.buffer < 2 ^ 32)
    (hfits : start.toNat + line.size ≤ r.capacity) (hroom : r.buffer + start.toNat + line.size ≤ m.size) :
    o = ⟨.ok true, f.withCursor { cursor with linePosition := cursor.linePosition + line.size, atLineEnd := true },
      ((m.patch r.last (Memory.wordBytes start)).patch (r.buffer + start.toNat) line).patch r.last
        (Memory.wordBytes (UInt32.ofNat (start.toNat + trimmedLength line))), false⟩ := by
  have hstart := start.toNat_lt
  have hbound : wordBound = 2 ^ 64 := rfl
  have hword := room_of_readWord hfirst
  subst hline
  cases ho with
  | unreadable hfault => omega
  | unwritable _ hfault => omega
  | ended _ _ hend => omega
  | overflow hfirst' _ _ hover =>
    cases hfirst.symm.trans hfirst'
    omega
  | beyond hfirst' _ _ _ hword =>
    cases hfirst.symm.trans hfirst'
    omega
  | outside hfirst' _ _ _ hfault =>
    cases hfirst.symm.trans hfirst'
    omega
  | delivered hfirst' _ _ hline' _ _ =>
    cases hfirst.symm.trans hfirst'
    subst hline'
    rfl

/-- A line that has no room is not, and what was skipped before it stays skipped. -/
theorem eq_overflow (ho : LineEnds m r f content cursor o) (hfirst : m.readWord r.first = .ok start)
    (hlast : r.last + 4 ≤ m.size) (hmore : cursor.linePosition < content.size)
    (hline : lineAt content cursor.linePosition = line) (hover : r.capacity < start.toNat + line.size) :
    o = ⟨.error (.error (.lineOverflow line.size (r.capacity - start.toNat))), f.withCursor cursor,
      m.patch r.last (Memory.wordBytes start), false⟩ := by
  have hword := room_of_readWord hfirst
  subst hline
  cases ho with
  | unreadable hfault => omega
  | unwritable _ hfault => omega
  | ended _ _ hend => omega
  | overflow hfirst' _ _ _ =>
    cases hfirst.symm.trans hfirst'
    rfl
  | beyond hfirst' _ _ hfits _ =>
    cases hfirst.symm.trans hfirst'
    omega
  | outside hfirst' _ _ hfits _ =>
    cases hfirst.symm.trans hfirst'
    omega
  | delivered hfirst' _ _ hline hfits _ =>
    cases hfirst.symm.trans hfirst'
    subst hline
    omega

/-- Where nothing is left the end is found. -/
theorem eq_ended (ho : LineEnds m r f content cursor o) (hfirst : m.readWord r.first = .ok start)
    (hlast : r.last + 4 ≤ m.size) (hend : content.size ≤ cursor.linePosition) :
    o = ⟨.ok false, f.withCursor { cursor with atEnd := true }, m.patch r.last (Memory.wordBytes start),
      f.isKeyboard⟩ := by
  have hword := room_of_readWord hfirst
  cases ho with
  | unreadable hfault => omega
  | unwritable _ hfault => omega
  | ended hfirst' _ _ =>
    cases hfirst.symm.trans hfirst'
    rfl
  | overflow _ _ hmore _ | beyond _ _ hmore _ _ | outside _ _ hmore _ _ | delivered _ _ hmore _ _ _ => omega

end LineEnds

/-! ## At any seat -/

/-- A read of bytes has no file, and fails, or comes to one of its ends. -/
theorem get_cases (x : Seat) (handle : Int32) (pointer length : Nat) :
    (∃ e, get handle pointer length x = .error (.error e) x) ∨
      ∃ f o, x.desk.file handle = .ok f ∧ ReadEnds x.memory pointer length f o ∧
        get handle pointer length x = o.toResult handle x.desk := by
  cases hfile : x.desk.file handle with
  | error e =>
    have hlook : Operation.file handle x = .error (.error e) x := by rw [Operation.file, hfile]
    exact Or.inl ⟨e, bind_of_error hlook⟩
  | ok f =>
    obtain ⟨o, hends, hop⟩ := readEnds_of_get hfile x.memory pointer length
    exact Or.inr ⟨f, o, rfl, hends, hop⟩

/-- A read of a line has no file that can be read, and fails, or comes to one of its ends. -/
theorem inputLine_cases (x : Seat) (handle : Int32) (r : LineRequest) :
    (∃ e, inputLine handle r x = .error (.error e) x) ∨
      ∃ f content cursor o, x.desk.file handle = .ok f ∧ f.source? = some (content, cursor) ∧
        LineEnds x.memory r f content (cursor.skipped r.bypass) o ∧
        inputLine handle r x = o.toResult handle x.desk := by
  cases hfile : x.desk.file handle with
  | error e =>
    have hlook : Operation.file handle x = .error (.error e) x := by rw [Operation.file, hfile]
    exact Or.inl ⟨e, bind_of_error hlook⟩
  | ok f =>
    cases hsource : f.source? with
    | none =>
      have hlook : Operation.file handle x = .ok f x := by rw [Operation.file, hfile]
      cases f with
      | screen => exact Or.inl ⟨_, bind_of_ok hlook⟩
      | keyboard script cursor => cases hsource
      | regular f => cases hsource
    | some source =>
      obtain ⟨o, hends, hop⟩ := lineEnds_of_inputLine hfile hsource x.memory r
      exact Or.inr ⟨f, source.1, source.2, o, rfl, hsource, hends, hop⟩

/-! ## Moving a cursor -/

section Cursors
variable {content : ByteArray} {cursor : Cursor}

theorem source?_withCursor {cursor' : Cursor} (h : f.source? = some (content, cursor')) (cursor : Cursor) :
    (f.withCursor cursor).source? = some (content, cursor) := by
  cases f with
  | keyboard script cursor => cases h; rfl
  | screen => cases h
  | regular f => cases h; rfl

theorem withCursor_self (h : f.source? = some (content, cursor)) : f.withCursor cursor = f := by
  cases f with
  | keyboard script cursor => cases h; rfl
  | screen => cases h
  | regular f => cases h; rfl

theorem withCursor_withCursor (f : OpenFile) (cursor cursor' : Cursor) :
    (f.withCursor cursor).withCursor cursor' = f.withCursor cursor' := by
  cases f <;> rfl

theorem isKeyboard_withCursor (f : OpenFile) (cursor : Cursor) : (f.withCursor cursor).isKeyboard = f.isKeyboard := by
  cases f <;> rfl

theorem atEnd_withCursor (h : f.source? = some (content, cursor)) : f.atEnd = cursor.atEnd := by
  cases f with
  | keyboard script cursor => cases h; rfl
  | screen => cases h
  | regular f => cases h; rfl

end Cursors

/-! ## What the acts tell -/

/-- At this desk the act on a handle comes to the outcome: it tells the guest its result and
its memory, and leaves its desk if the host can go on. -/
structure ComesTo (a : Act) (answer : α → Act.Answer) (handle : Int32) (d : Desk) (o : Outcome α) : Prop where
  reply : a.reply d = ⟨o.result.map answer, o.memory⟩
  after : d.after a = if o.result matches .error .abort then none else some (o.desk handle d)

theorem comesTo_of_operation {a : Act} {op : Operation α} {answer : α → Act.Answer} {o : Outcome α}
    (ha : a.operate = answer <$> op) (hop : op ⟨d, a.memory⟩ = o.toResult handle d) :
    ComesTo a answer handle d o where
  reply := by
    have hmap : (answer <$> op) ⟨d, a.memory⟩ = EStateM.map answer op ⟨d, a.memory⟩ := rfl
    rw [Act.reply, ha, hmap, EStateM.map, hop]
    obtain ⟨result, file, memory, finishes⟩ := o
    cases result <;> rfl
  after := by
    rw [after_eq, ha, going_map, hop]
    obtain ⟨result, file, memory, finishes⟩ := o
    cases result with
    | ok a => rfl
    | error e => cases e <;> rfl

theorem comesTo_get (hfile : d.file handle = .ok f) (m : Memory) (pointer length : UInt32) :
    ∃ o, ReadEnds m pointer.toNat length.toNat f o ∧
      ComesTo (.get m handle pointer length) (fun _ => .done) handle d o := by
  obtain ⟨o, hends, hop⟩ := readEnds_of_get hfile m pointer.toNat length.toNat
  exact ⟨o, hends, comesTo_of_operation rfl hop⟩

theorem comesTo_inputLine {content : ByteArray} {cursor : Cursor} (hfile : d.file handle = .ok f)
    (hsource : f.source? = some (content, cursor)) (m : Memory) (bypass : Bool) (buffer first last capacity : UInt32) :
    ∃ o, LineEnds m ⟨bypass, buffer.toNat, first.toNat, last.toNat, capacity.toNat⟩ f content
        (cursor.skipped bypass) o ∧
      ComesTo (.inputLine m handle bypass buffer first last capacity) .flag handle d o := by
  obtain ⟨o, hends, hop⟩ := lineEnds_of_inputLine hfile hsource m
    ⟨bypass, buffer.toNat, first.toNat, last.toNat, capacity.toNat⟩
  exact ⟨o, hends, comesTo_of_operation rfl hop⟩

theorem file_desk (hfile : d.file handle = .ok f) (o : Outcome α) : (o.desk handle d).file handle = .ok o.file := by
  rw [Outcome.desk]
  split
  · exact file_setFile hfile o.file
  · exact file_setFile hfile o.file

theorem finished_desk (d : Desk) (handle : Int32) (o : Outcome α) :
    (o.desk handle d).finished = (d.finished || o.finishes) := by
  rw [Outcome.desk]
  cases o.finishes with
  | true => exact (Bool.or_true _).symm
  | false => exact (Bool.or_false _).symm

namespace ComesTo
variable {a : Act} {answer : α → Act.Answer} {o : Outcome α}

theorem after_eq_of_ok {r : α} (h : ComesTo a answer handle d o) (hok : o.result = .ok r) :
    d.after a = some (o.desk handle d) := by
  rw [h.after, hok]
  rfl

theorem after_eq_of_error {cause : FileError} (h : ComesTo a answer handle d o)
    (herror : o.result = .error (.error cause)) : d.after a = some (o.desk handle d) := by
  rw [h.after, herror]
  rfl

theorem eq_of_after {d' : Desk} (h : ComesTo a answer handle d o) (hafter : d.after a = some d') :
    d' = o.desk handle d := by
  rw [h.after] at hafter
  split at hafter
  · cases hafter
  · exact (Option.some.inj hafter).symm

end ComesTo

/-! ## One file through a run -/

theorem lt_of_file (hfile : d.file handle = .ok f) : handle.toInt < d.table.size := by
  obtain ⟨hlt, -⟩ := Array.getElem?_eq_some_iff.mp (getElem?_of_file hfile)
  omega

/-- An act leaves the file behind a handle, or has its effect on it. -/
theorem file_cases_of_after {d' : Desk} {a : Act} (hfile : d.file handle = .ok f) (hafter : d.after a = some d') :
    d'.file handle = .ok f ∨ ∃ f', d'.file handle = .ok f' ∧ a.Effect handle f f' := by
  cases step_of_after hafter with
  | stored name content => exact Or.inl hfile
  | @opened a name mode resuming hopens =>
    rcases d.finds_of_open name mode resuming with ⟨g, -, hopen⟩ | hopen
    · rw [hopen]
      exact Or.inl ((file_push_of_lt (lt_of_file hfile) _).trans hfile)
    · rw [hopen]
      exact Or.inl hfile
  | terminal hf => exact Or.inl ((file_push_of_lt (lt_of_file hfile) _).trans hfile)
  | worked handle' hworked =>
    rcases hworked.table with htable | ⟨g, g', hg, heffect, htable⟩
    · exact Or.inl ((file_congr fun _ => by rw [htable]).trans hfile)
    · have hsame : d'.file handle = (d.setFile handle' g').file handle := file_congr fun _ => by rw [htable]; rfl
      by_cases hhandle : handle' = handle
      · subst hhandle
        cases hfile.symm.trans hg
        exact Or.inr ⟨g', hsame.trans (file_setFile hfile g'), heffect⟩
      · exact Or.inl (hsame.trans ((file_setFile_of_ne hg hhandle g').trans hfile))

theorem trace_concat {d' : Desk} {acts : List Act} (hrun : d.run acts = some d') (a : Act) :
    d.trace (acts ++ [a]) = d.trace acts ++ [(a, a.reply d')] := by
  induction acts generalizing d with
  | nil =>
    cases hrun
    rw [List.nil_append]
    cases hafter : d'.after a with
    | none => exact trace_of_abort hafter
    | some e => exact trace_of_after hafter
  | cons b acts ih =>
    obtain ⟨e, hafter, hrest⟩ := Option.bind_eq_some_iff.mp (run_cons d b acts ▸ hrun)
    rw [List.cons_append, trace_of_after hafter, trace_of_after hafter, ih hrest, List.cons_append]

/-- **What the acts on a handle keep of its file, a run keeps.**  `P` relates what has been done
on the handle, with the replies, to the file; an act on the handle takes it on, and acts
elsewhere leave both. -/
theorem file_of_run {d₀ : Desk} {f₀ : OpenFile} (hfile : d₀.file handle = .ok f₀)
    {P : List (Act × Act.Reply) → OpenFile → Prop} (hstart : P [] f₀) {acts : List Act}
    (hstep : ∀ {events : List (Act × Act.Reply)} {d d' : Desk} {f : OpenFile} {a : Act}, P events f →
      d.file handle = .ok f → events ++ [(a, a.reply d)] <+: eventsOn handle (d₀.trace acts) → d.after a = some d' →
      ∃ f', d'.file handle = .ok f' ∧ P (events ++ [(a, a.reply d)]) f')
    (hrun : d₀.run acts = some d) : ∃ f, d.file handle = .ok f ∧ P (eventsOn handle (d₀.trace acts)) f := by
  induction acts using List.reverseRecOn generalizing d with
  | nil =>
    cases hrun
    exact ⟨f₀, hfile, hstart⟩
  | append_singleton acts a ih =>
    rw [run_concat] at hrun
    obtain ⟨e, hacts, hafter⟩ := Option.bind_eq_some_iff.mp hrun
    have hsplit : eventsOn handle (d₀.trace (acts ++ [a])) =
        eventsOn handle (d₀.trace acts) ++ eventsOn handle [(a, a.reply e)] := by
      rw [trace_concat hacts, eventsOn, List.filter_append]
      rfl
    rw [hsplit] at hstep ⊢
    obtain ⟨f, hf, hP⟩ := ih (fun hP hf hfront => hstep hP hf (hfront.trans (List.prefix_append ..))) hacts
    by_cases hon : a.isOn handle
    · have hlast : eventsOn handle [(a, a.reply e)] = [(a, a.reply e)] := eventsOn_cons_of_isOn hon _ []
      rw [hlast] at hstep ⊢
      exact hstep hP hf (List.prefix_refl _) hafter
    · have hnil : eventsOn handle [(a, a.reply e)] = [] := eventsOn_cons_of_not_isOn hon _ []
      rw [hnil, List.append_nil]
      exact ⟨f, (file_of_after hafter (Bool.eq_false_iff.mpr hon) (lt_of_file hf)).trans hf, hP⟩

/-! ## The work on one file -/

theorem after_of_asks {a : Act} (h : a.asks) (d : Desk) : d.after a = some d := by
  have hask {α : Type} (ask : Desk → Except FileError α) (ha : a.perform = Act.asking ask) : d.after a = some d := by
    rw [after, ha, Act.asking]
    cases ask d <;> rfl
  cases a with
  | close handle | atEnd handle | atLineEnd handle | status handle => exact hask _ rfl
  | _ => cases h

/-- The acts that work on a handle, without those that only ask. -/
def worksOn (handle : Int32) (acts : List Act) : List Act := (actsOn handle acts).filter fun a => !a.asks

theorem map_fst_trace {d' : Desk} {acts : List Act} (hrun : d.run acts = some d') :
    (d.trace acts).map Prod.fst = acts := by
  induction acts generalizing d with
  | nil => rfl
  | cons a acts ih =>
    obtain ⟨e, hafter, hrest⟩ := Option.bind_eq_some_iff.mp (run_cons d a acts ▸ hrun)
    rw [trace_of_after hafter, List.map_cons, ih hrest]

/-- **What the work on a handle keeps of its file, a run keeps**, whatever it asks meanwhile and
whatever it does elsewhere. -/
theorem file_of_works {d₀ : Desk} {f₀ : OpenFile} (hfile : d₀.file handle = .ok f₀)
    {P : List Act → OpenFile → Prop} (hstart : P [] f₀) {acts : List Act}
    (hstep : ∀ {done : List Act} {d d' : Desk} {f : OpenFile} {a : Act}, P done f → d.file handle = .ok f →
      done ++ [a] <+: worksOn handle acts → d.after a = some d' → ∃ f', d'.file handle = .ok f' ∧ P (done ++ [a]) f')
    (hrun : d₀.run acts = some d) : ∃ f, d.file handle = .ok f ∧ P (worksOn handle acts) f := by
  let works (events : List (Act × Act.Reply)) : List Act := (events.map Prod.fst).filter fun a => !a.asks
  have hworks : works (eventsOn handle (d₀.trace acts)) = worksOn handle acts := by
    rw [worksOn, actsOn, ← map_fst_trace hrun, List.filter_map, map_fst_trace hrun]
    rfl
  have hevent {events : List (Act × Act.Reply)} {d d' : Desk} {f : OpenFile} {a : Act} (hP : P (works events) f)
      (hf : d.file handle = .ok f) (hfront : events ++ [(a, a.reply d)] <+: eventsOn handle (d₀.trace acts))
      (hafter : d.after a = some d') : ∃ f', d'.file handle = .ok f' ∧ P (works (events ++ [(a, a.reply d)])) f' := by
    have hconcat : works (events ++ [(a, a.reply d)]) = works events ++ [a].filter fun a => !a.asks := by
      simp only [works, List.map_append, List.map_cons, List.map_nil, List.filter_append]
    have hfront : works (events ++ [(a, a.reply d)]) <+: worksOn handle acts := hworks ▸ (hfront.map Prod.fst).filter _
    rw [hconcat] at hfront ⊢
    by_cases hasks : a.asks
    · rw [after_of_asks hasks] at hafter
      cases hafter
      rw [List.filter_cons_of_neg (by simpa using hasks), List.filter_nil, List.append_nil]
      exact ⟨f, hf, hP⟩
    · rw [List.filter_cons_of_pos (by simpa using hasks), List.filter_nil] at hfront ⊢
      exact hstep hP hf hfront hafter
  obtain ⟨f, hf, hP⟩ := file_of_run (P := fun events => P (works events)) hfile hstart hevent hrun
  exact ⟨f, hf, hworks ▸ hP⟩

end Desk
end Galley
