import Galley.Proofs.File.Reading
import Mathlib.Data.List.TakeWhile

/-! # A file is read line by line

A read of a line stops at the line feed behind the line and leaves it there.  The next read
skips it, but only if the last one has left one: at the start of a file and at its end there
is nothing to skip.  So what lies behind the cursor and its line feed is the file without the
lines that have been read (`LinesRead`), and every read delivers the first line of it, with
empty lines, blank lines and an unfinished last line like all others (`delivers_lines`).

The lines are those of `linesOf`: what lies between the line feeds, and behind the last one
only if there is anything. -/
namespace Galley

/-! ## Reading what was written -/

namespace Memory
variable {m : Memory} {offset : Nat} {data : ByteArray}

theorem wordOf_wordBytes (w : UInt32) : wordOf (wordBytes w) = w := by
  have hword : wordOf (wordBytes w) = w.toUInt8.toUInt32 ||| (w >>> 8).toUInt8.toUInt32 <<< 8 |||
      (w >>> 16).toUInt8.toUInt32 <<< 16 ||| (w >>> 24).toUInt8.toUInt32 <<< 24 := rfl
  rw [hword]
  apply UInt32.eq_of_toBitVec_eq
  apply BitVec.eq_of_getLsbD_eq
  intro i hi
  simp only [UInt32.toBitVec_or, UInt8.toBitVec_toUInt32, UInt32.toBitVec_toUInt8, UInt32.toBitVec_shiftLeft,
    UInt32.toBitVec_shiftRight, UInt32.toBitVec_ofNat, BitVec.ofNat_eq_ofNat, BitVec.reduceMod, BitVec.ushiftRight_eq',
    BitVec.shiftLeft_eq', BitVec.toNat_ofNat, Nat.reducePow, Nat.reduceMod, BitVec.getLsbD_or, BitVec.getLsbD_setWidth,
    BitVec.getLsbD_shiftLeft, BitVec.getLsbD_ushiftRight]
  grind

theorem getElem?_slice (bytes : ByteArray) (offset length i : Nat) :
    (slice bytes offset length).data[i]? = if i < length then bytes.data[offset + i]? else none := by
  rw [slice, ByteArray.data_extract, Array.getElem?_extract]
  grind

theorem read_patch (h : offset + data.size ≤ m.size) : (m.patch offset data).read offset data.size = .ok data := by
  rw [read_eq_ok ((size_patch h).symm ▸ h)]
  refine congrArg Except.ok (ByteArray.ext (Array.ext_getElem? fun i => ?_))
  rw [getElem?_slice, patch, getElem?_splice h]
  have hdata : data.size = data.data.size := rfl
  grind

/-- Bytes apart from those that were written are what they were. -/
theorem read_patch_of_apart {start length : Nat} (h : offset + data.size ≤ m.size)
    (hapart : start + length ≤ offset ∨ offset + data.size ≤ start) :
    (m.patch offset data).read start length = m.read start length := by
  have hsize := size_patch h
  by_cases hroom : start + length ≤ m.size
  · rw [read_eq_ok (hsize.symm ▸ hroom), read_eq_ok hroom]
    refine congrArg Except.ok (ByteArray.ext (Array.ext_getElem? fun i => ?_))
    rw [getElem?_slice, getElem?_slice, patch, getElem?_splice h]
    grind
  · rw [read, read, covers, covers, fault, fault, hsize, decide_eq_false hroom]
    rfl

theorem readWord_patch {w : UInt32} (h : offset + 4 ≤ m.size) :
    (m.patch offset (wordBytes w)).readWord offset = .ok w := by
  have hread : (m.patch offset (wordBytes w)).read offset 4 = .ok (wordBytes w) := read_patch h
  rw [readWord, hread, Except.map, wordOf_wordBytes]

end Memory

/-! ## The lines of a text -/

/-- What lies between the line feeds, without what lies behind the last one if that is nothing.
The empty text has no lines. -/
def linesOf (text : List UInt8) : List (List UInt8) :=
  let pieces := text.splitOn 0x0A
  if pieces.getLast? = some [] then pieces.dropLast else pieces

theorem linesOf_append_feed {line : List UInt8} (h : ∀ b ∈ line, (b == 0x0A) = false) (rest : List UInt8) :
    linesOf (line ++ 0x0A :: rest) = line :: linesOf rest := by
  have hsplit : (line ++ 0x0A :: rest).splitOn 0x0A = line :: rest.splitOn 0x0A :=
    List.splitOnP_append_cons_of_forall_mem h 0x0A rfl rest
  obtain ⟨piece, pieces, hrest⟩ := List.exists_cons_of_ne_nil (List.splitOnP_ne_nil (· == 0x0A) rest)
  rw [linesOf, linesOf, hsplit, List.splitOn_eq_splitOnP, hrest]
  rw [List.getLast?_cons_cons, apply_ite (List.cons line)]
  rfl

theorem linesOf_of_no_feed {line : List UInt8} (h : ∀ b ∈ line, (b == 0x0A) = false) (hne : line ≠ []) :
    linesOf line = [line] := by
  have hsplit : line.splitOn 0x0A = [line] := List.splitOnP_eq_singleton h
  simp [linesOf, hsplit, hne]

/-- The text of a file from a position on. -/
def textFrom (content : ByteArray) (position : Nat) : List UInt8 := content.data.toList.drop position

theorem textFrom_eq_nil_iff {content : ByteArray} {position : Nat} :
    textFrom content position = [] ↔ content.size ≤ position := by
  rw [textFrom, List.drop_eq_nil_iff, Array.length_toList]
  rfl

/-- The line at a position is the text from there to the next line feed. -/
theorem toList_lineAt (content : ByteArray) (position : Nat) :
    (Desk.lineAt content position).data.toList = (textFrom content position).takeWhile (fun b => !(b == 0x0A)) := by
  let rest := content.extract position content.size
  have hrest : rest.data.toList = textFrom content position := by
    rw [textFrom, ByteArray.data_extract, Array.toList_extract, List.extract_eq_take_drop]
    exact List.take_of_length_le (by simp)
  have hindex : (rest.data.findIdx? (· == 0x0A)).getD rest.size = (textFrom content position).findIdx (· == 0x0A) := by
    rw [← hrest, ← List.findIdx_toArray]
    exact Array.findIdx_eq_getD_findIdx?.symm
  rw [Desk.lineAt, ByteArray.data_extract, Array.toList_extract, hindex, hrest, List.takeWhile_eq_take_findIdx_not]
  simp

/-- A text that goes on is its first line and what comes after its line feed. -/
theorem linesOf_textFrom {content : ByteArray} {position : Nat} (h : position < content.size) :
    linesOf (textFrom content position) = (Desk.lineAt content position).data.toList ::
      linesOf (textFrom content (position + (Desk.lineAt content position).size + 1)) := by
  have hline := toList_lineAt content position
  have hnext : textFrom content (position + (Desk.lineAt content position).size + 1) =
      (textFrom content position).drop ((Desk.lineAt content position).data.toList.length + 1) := by
    rw [textFrom, textFrom, List.drop_drop, Array.length_toList]
    rfl
  have hne : textFrom content position ≠ [] := fun hnil => by
    have := textFrom_eq_nil_iff.mp hnil
    omega
  rw [hnext, hline]
  -- behind the first line there is nothing, or a line feed and the lines that follow
  generalize textFrom content position = text at hne
  have hsplit := List.takeWhile_append_dropWhile (p := fun b : UInt8 => !(b == 0x0A)) (l := text)
  have hhead := List.head?_dropWhile_not (fun b : UInt8 => !(b == 0x0A)) text
  have hfree : ∀ b ∈ text.takeWhile (fun b => !(b == 0x0A)), (b == 0x0A) = false := fun b hb => by
    simpa using List.mem_takeWhile_imp hb
  generalize text.takeWhile (fun b => !(b == 0x0A)) = line at hsplit hfree ⊢
  generalize text.dropWhile (fun b => !(b == 0x0A)) = rest at hsplit hhead
  subst hsplit
  cases rest with
  | nil =>
    rw [List.append_nil] at hne ⊢
    rw [linesOf_of_no_feed hfree hne, List.drop_eq_nil_of_le (Nat.le_succ _)]
    rfl
  | cons feed rest =>
    have hfeed : feed = 0x0A := by simpa using hhead
    rw [hfeed, linesOf_append_feed hfree, List.drop_length_add_append]
    rfl

/-! ## Reading lines -/

/-- The request has room for a line behind the index `start`, apart from the place of the index past
the line. -/
structure LineRequest.Fits (r : LineRequest) (m : Memory) (start : Nat) (line : List UInt8) : Prop where
  capacity : start + line.length ≤ r.capacity
  inside : r.buffer + start + line.length ≤ m.size
  apart : r.last + 4 ≤ r.buffer + start ∨ r.buffer + start + line.length ≤ r.last

/-- The act reads a line, and each of these lines has room. -/
inductive Act.ReadsLine (handle : Int32) (lines : List (List UInt8)) : Act → Prop
  | inputLine {m : Memory} {bypass : Bool} {buffer first last capacity start : UInt32}
      (hfirst : m.readWord first.toNat = .ok start) (hlast : last.toNat + 4 ≤ m.size)
      (hfits : ∀ line ∈ lines, LineRequest.Fits
        ⟨bypass, buffer.toNat, first.toNat, last.toNat, capacity.toNat⟩ m start.toNat line) :
      ReadsLine handle lines (.inputLine m handle bypass buffer first last capacity)

/-- The act skips the line feed that the last line has left. -/
def Act.bypasses : Act → Bool
  | inputLine _ _ bypass .. => bypass
  | _ => false

/-- The lines of a file. -/
def linesIn (content : ByteArray) : List (List UInt8) := linesOf content.data.toList

/-- Where the next line starts. -/
def Cursor.nextLine (cursor : Cursor) : Nat := (cursor.skipped true).linePosition

namespace Desk

/-- Where the reader of lines stands after `count` reads: before the first line that was not read,
and at the end once a read has found no line.  No byte was read on its own. -/
structure LinesRead (content : ByteArray) (count : Nat) (cursor : Cursor) : Prop where
  left : linesOf (textFrom content cursor.nextLine) = (linesIn content).drop count
  atEnd : cursor.atEnd = decide ((linesIn content).length < count)
  atStart : count = 0 → cursor.atLineEnd = false
  position : cursor.position = 0

variable {content : ByteArray} {count : Nat} {cursor : Cursor} {m : Memory} {r : LineRequest} {f : OpenFile}

theorem LinesRead.start (content : ByteArray) : LinesRead content 0 .start where
  left := rfl
  atEnd := rfl
  atStart _ := rfl
  position := rfl

/-- The first read has nothing to skip. -/
theorem LinesRead.skipped (h : LinesRead content count cursor) {bypass : Bool} (hbypass : count ≠ 0 → bypass = true) :
    cursor.skipped bypass = cursor.skipped true := by
  by_cases hcount : count = 0
  · rw [Cursor.skipped, Cursor.skipped, h.atStart hcount, Bool.and_false, Bool.and_false]
  · rw [hbypass hcount]

/-- The next line, where the content goes on. -/
theorem LinesRead.drop_of_lt (h : LinesRead content count cursor) (hmore : cursor.nextLine < content.size) :
    (linesIn content).drop count = (lineAt content cursor.nextLine).data.toList ::
      linesOf (textFrom content (cursor.nextLine + (lineAt content cursor.nextLine).size + 1)) := by
  rw [← h.left, linesOf_textFrom hmore]

theorem LinesRead.getElem?_of_lt (h : LinesRead content count cursor) (hmore : cursor.nextLine < content.size) :
    (linesIn content)[count]? = some (lineAt content cursor.nextLine).data.toList := by
  have hdrop := congrArg (·[0]?) (h.drop_of_lt hmore)
  rwa [List.getElem?_drop, Nat.add_zero] at hdrop

theorem LinesRead.length_le (h : LinesRead content count cursor) (hend : content.size ≤ cursor.nextLine) :
    (linesIn content).length ≤ count := by
  have hnothing : (linesIn content).drop count = [] := by
    rw [← h.left, textFrom_eq_nil_iff.mpr hend]
    rfl
  exact List.drop_eq_nil_iff.mp hnothing

/-- A line was delivered: the line feed behind it is the next to skip. -/
theorem LinesRead.delivered (h : LinesRead content count cursor) (hmore : cursor.nextLine < content.size) :
    LinesRead content (count + 1)
      { cursor.skipped true with
        linePosition := cursor.nextLine + (lineAt content cursor.nextLine).size, atLineEnd := true } := by
  have hcount : count < (linesIn content).length := (List.getElem?_eq_some_iff.mp (h.getElem?_of_lt hmore)).1
  have hend : cursor.atEnd = false := h.atEnd.trans (decide_eq_false (Nat.lt_asymm hcount))
  refine ⟨?_, hend.trans (decide_eq_false (by omega)).symm, nofun, h.position⟩
  -- the end is not told yet, so the next read skips the line feed that this one has left
  have hnext : Cursor.nextLine { cursor.skipped true with
      linePosition := cursor.nextLine + (lineAt content cursor.nextLine).size, atLineEnd := true } =
      cursor.nextLine + (lineAt content cursor.nextLine).size + 1 := by
    simp only [Cursor.nextLine, Cursor.skipped, hend]
    rfl
  rw [hnext, ← List.tail_drop, h.drop_of_lt hmore, List.tail_cons]

/-- The end was found, and is found again. -/
theorem LinesRead.ended (h : LinesRead content count cursor) (hend : content.size ≤ cursor.nextLine) :
    LinesRead content (count + 1) { cursor.skipped true with atEnd := true } := by
  have hcount := h.length_le hend
  refine ⟨?_, (decide_eq_true (by omega)).symm, nofun, h.position⟩
  -- once the end is told, nothing is skipped
  have hnext : Cursor.nextLine { cursor.skipped true with atEnd := true } = cursor.nextLine := by
    simp only [Cursor.nextLine, Cursor.skipped, Bool.not_true, Bool.and_false, Bool.false_and]
    rfl
  rw [hnext, textFrom_eq_nil_iff.mpr hend, List.drop_eq_nil_of_le (by omega)]
  rfl

/-- What a read of a line leaves in the memory, where the next line is `line?`: the line in its place
and the index past it, less the spaces at its end; or, where there is none, the index before. -/
def LinePlaced (r : LineRequest) (start : UInt32) (m : Memory) : Option (List UInt8) → Prop
  | some line =>
    m.read (r.buffer + start.toNat) line.length = .ok line.toByteArray ∧
      ∃ index, m.readWord r.last = .ok index ∧
        index.toNat = start.toNat + (Text.dropTrailing (· == 0x20) line).length
  | none => m.readWord r.last = .ok start

/-- What a read makes of the lines: it delivers the next one and takes the reader on. -/
structure LinesRead.Next (content : ByteArray) (count : Nat) (r : LineRequest) (start : UInt32) (f : OpenFile)
    (o : Outcome Bool) : Prop where
  result : o.result = .ok (linesIn content)[count]?.isSome
  placed : LinePlaced r start o.memory (linesIn content)[count]?
  finishes : o.finishes = ((linesIn content)[count]?.isNone && f.isKeyboard)
  file : ∃ cursor, o.file = f.withCursor cursor ∧ LinesRead content (count + 1) cursor

theorem length_dropTrailing_le {α : Type} (p : α → Bool) (l : List α) : (Text.dropTrailing p l).length ≤ l.length := by
  rw [Text.dropTrailing, List.length_reverse]
  exact (List.dropWhile_suffix p).length_le.trans_eq List.length_reverse

/-- The memory after a line was delivered. -/
theorem linePlaced_of_fits {start : UInt32} {line : ByteArray} (hlast : r.last + 4 ≤ m.size)
    (hfits : r.Fits m start.toNat line.data.toList) (hcapacity : r.capacity < 2 ^ 32) :
    LinePlaced r start (((m.patch r.last (Memory.wordBytes start)).patch (r.buffer + start.toNat) line).patch r.last
      (Memory.wordBytes (UInt32.ofNat (start.toNat + trimmedLength line)))) (some line.data.toList) := by
  have hlength : line.data.toList.length = line.size := Array.length_toList
  have hbytes : line.data.toList.toByteArray = line := by
    apply ByteArray.ext
    rw [List.data_toByteArray, Array.toArray_toList]
  obtain ⟨hroom, hinside, hapart⟩ := hfits
  rw [hlength] at hroom hinside hapart
  let first := m.patch r.last (Memory.wordBytes start)
  have hfirst : first.size = m.size := Memory.size_patch hlast
  let second := first.patch (r.buffer + start.toNat) line
  have hsecond : second.size = m.size := (Memory.size_patch (hfirst.symm ▸ hinside)).trans hfirst
  have hword : r.last + 4 ≤ second.size := hsecond.symm ▸ hlast
  refine ⟨?_, _, Memory.readWord_patch hword, ?_⟩
  · -- the index is written after the line, in a place apart
    rw [hlength, hbytes]
    exact (Memory.read_patch_of_apart hword hapart.symm).trans (Memory.read_patch (hfirst.symm ▸ hinside))
  · have htrimmed := length_dropTrailing_le (· == 0x20) line.data.toList
    rw [hlength] at htrimmed
    rw [UInt32.toNat_ofNat', trimmedLength]
    exact Nat.mod_eq_of_lt (by omega)

theorem LinesRead.next {start : UInt32} {o : Outcome Bool} (h : LinesRead content count cursor)
    (hfirst : m.readWord r.first = .ok start) (hlast : r.last + 4 ≤ m.size) (hbuffer : r.buffer < 2 ^ 32)
    (hcapacity : r.capacity < 2 ^ 32) (hfits : ∀ line ∈ linesIn content, r.Fits m start.toNat line)
    (ho : LineEnds m r f content (cursor.skipped true) o) : LinesRead.Next content count r start f o := by
  -- with room for every line, a read of one can only deliver the next or find the end
  rcases Nat.lt_or_ge cursor.nextLine content.size with hmore | hend
  · have hsome := h.getElem?_of_lt hmore
    have hroom := hfits _ (List.mem_of_getElem? hsome)
    cases ho.eq_delivered hfirst hlast hmore rfl hbuffer hroom.capacity hroom.inside
    refine ⟨?_, ?_, ?_, _, rfl, h.delivered hmore⟩
    · rw [hsome]
      rfl
    · rw [hsome]
      exact linePlaced_of_fits hlast hroom hcapacity
    · rw [hsome]
      rfl
  · have hnone : (linesIn content)[count]? = none := List.getElem?_eq_none (h.length_le hend)
    cases ho.eq_ended hfirst hlast hend
    refine ⟨?_, ?_, ?_, _, rfl, h.ended hend⟩
    · rw [hnone]
      rfl
    · rw [hnone]
      exact Memory.readWord_patch hlast
    · rw [hnone]
      rfl

/-! ## Reading a file to its end -/

/-- The file once lines of it have been read. -/
def LinesReadOf (f : OpenFile) (content : ByteArray) (done : List Act) (g : OpenFile) : Prop :=
  ∃ cursor, g = f.withCursor cursor ∧ LinesRead content done.length cursor

variable {d d' e : Desk} {handle : Int32} {g : OpenFile} {done acts : List Act}

/-- A read of a line that has room for each of them delivers the next one, and the host can go on. -/
theorem exists_next_line (hfile : d.file handle = .ok g) (hsource : f.source? = some (content, .start))
    (h : LinesReadOf f content done g) {bypass : Bool} {buffer first last capacity start : UInt32}
    (hfirst : m.readWord first.toNat = .ok start) (hlast : last.toNat + 4 ≤ m.size)
    (hfits : ∀ line ∈ linesIn content, LineRequest.Fits
      ⟨bypass, buffer.toNat, first.toNat, last.toNat, capacity.toNat⟩ m start.toNat line)
    (hbypass : done ≠ [] → bypass = true) :
    ∃ o, LinesRead.Next content done.length ⟨bypass, buffer.toNat, first.toNat, last.toNat, capacity.toNat⟩ start g o ∧
      ComesTo (.inputLine m handle bypass buffer first last capacity) .flag handle d o := by
  obtain ⟨cursor, rfl, hread⟩ := h
  obtain ⟨o, hends, hcomes⟩ :=
    comesTo_inputLine hfile (source?_withCursor hsource cursor) m bypass buffer first last capacity
  rw [hread.skipped fun hcount => hbypass (mt List.length_eq_zero_iff.mpr hcount)] at hends
  exact ⟨o, hread.next hfirst hlast buffer.toNat_lt capacity.toNat_lt hfits hends, hcomes⟩

/-- One read of a line takes the reader on. -/
theorem LinesReadOf.exists_after {a : Act} (h : LinesReadOf f content done g)
    (hsource : f.source? = some (content, .start)) (hfile : d.file handle = .ok g)
    (ha : a.ReadsLine handle (linesIn content)) (hbypass : done ≠ [] → a.bypasses) :
    ∃ d' g', d.after a = some d' ∧ d'.file handle = .ok g' ∧ LinesReadOf f content (done ++ [a]) g' := by
  cases ha with
  | @inputLine m bypass buffer first last capacity start hfirst hlast hfits =>
    obtain ⟨o, ⟨hresult, -, -, cursor', hfile', hnext⟩, hcomes⟩ :=
      exists_next_line hfile hsource h hfirst hlast hfits hbypass
    obtain ⟨cursor, rfl, -⟩ := h
    rw [withCursor_withCursor] at hfile'
    refine ⟨_, o.file, hcomes.after_eq_of_ok hresult, file_desk hfile o, cursor', hfile', ?_⟩
    rw [List.length_append]
    exact hnext

theorem mem_tail_of_front {α : Type} {front l : List α} {a : α} (h : front ++ [a] <+: l) (hne : front ≠ []) :
    a ∈ l.tail := by
  obtain ⟨rest, rfl⟩ := h
  cases front with
  | nil => exact absurd rfl hne
  | cons x front => simp

/-- **Reads of lines deliver a file line by line.**  From a file that nothing has been read of,
the terminal's script or another, and with reads of lines as the only work on its handle that
have room for each line and skip the line feed that the last one left, every read delivers
the next line, puts the index past it without the spaces at its end, and finds no end.  Once
all lines have been read, every read delivers nothing, leaves the index where it was, and
finds the end.  The run is finished by the first of those at the terminal, and by none at
another file. -/
theorem delivers_lines (hfile : d.file handle = .ok f) (hsource : f.source? = some (content, .start))
    (hrun : d.run acts = some e) {bypass : Bool} {buffer first last capacity : UInt32}
    (hacts : ∀ a ∈ worksOn handle acts ++ [Act.inputLine m handle bypass buffer first last capacity],
      a.ReadsLine handle (linesIn content))
    (hbypass : ∀ a ∈ (worksOn handle acts ++ [Act.inputLine m handle bypass buffer first last capacity]).tail,
      a.bypasses) :
    let read := Act.inputLine m handle bypass buffer first last capacity
    let line? := (linesIn content)[(worksOn handle acts).length]?
    ∃ start e', m.readWord first.toNat = .ok start ∧ e.after read = some e' ∧
      (read.reply e).result = .ok (.flag line?.isSome) ∧
      LinePlaced ⟨bypass, buffer.toNat, first.toNat, last.toNat, capacity.toNat⟩ start (read.reply e).memory line? ∧
      e'.atEnd handle = .ok line?.isNone ∧ e'.finished = (e.finished || line?.isNone && f.isKeyboard) := by
  intro read line?
  have hstart : LinesReadOf f content [] f := ⟨.start, (withCursor_self hsource).symm, .start content⟩
  obtain ⟨g, hg, hdone⟩ := file_of_works hfile hstart (fun {done d d' g a} hdone hg hfront hafter => by
    have hfront := hfront.trans (List.prefix_append _ [read])
    obtain ⟨d'', g', hafter', hg', hdone'⟩ := hdone.exists_after hsource hg
      (hacts a (hfront.subset List.mem_concat_self)) (fun hne => hbypass a (mem_tail_of_front hfront hne))
    cases hafter.symm.trans hafter'
    exact ⟨g', hg', hdone'⟩) hrun
  have hread : (Act.inputLine m handle bypass buffer first last capacity).ReadsLine handle (linesIn content) :=
    hacts _ List.mem_concat_self
  cases hread with
  | @inputLine _ _ _ _ _ _ start hfirst hlast hfits =>
    have hskip : worksOn handle acts ≠ [] → bypass = true :=
      fun hne => hbypass _ (mem_tail_of_front (List.prefix_refl _) hne)
    obtain ⟨o, ⟨hresult, hplaced, hfinishes, cursor', hfile', hnext⟩, hcomes⟩ :=
      exists_next_line hg hsource hdone hfirst hlast hfits hskip
    obtain ⟨cursor, rfl, -⟩ := hdone
    refine ⟨start, _, hfirst, hcomes.after_eq_of_ok hresult, ?_, ?_, ?_, ?_⟩
    · rw [hcomes.reply, hresult]
      rfl
    · rw [hcomes.reply]
      exact hplaced
    · have hend : o.file.atEnd = cursor'.atEnd := by
        rw [hfile', withCursor_withCursor]
        exact atEnd_withCursor (source?_withCursor hsource cursor')
      have hcount : decide ((linesIn content).length < (worksOn handle acts).length + 1) = line?.isNone := by
        rw [Bool.eq_iff_iff, decide_eq_true_iff, Nat.lt_succ_iff, Option.isNone_iff_eq_none,
          List.getElem?_eq_none_iff]
      rw [Desk.atEnd, file_desk hg o, Except.map, hend, hnext.atEnd, hcount]
    · rw [finished_desk, hfinishes, isKeyboard_withCursor]

/-- A desk at which two lines are typed, the first with a space at its end. -/
def twoLines : Desk := ((Desk.start .empty fun _ => none).push (.keyboard "a \nb".toUTF8 .start)).2

/-- The memory of a guest that reads lines. -/
def lineBuffer : Memory := ⟨(List.replicate 32 0).toByteArray⟩

theorem readsLine_lineBuffer {lines : List (List UInt8)} (hshort : ∀ line ∈ lines, line.length ≤ 8) (bypass : Bool) :
    (Act.inputLine lineBuffer 0 bypass 16 0 4 8).ReadsLine 0 lines := by
  have hzero : lineBuffer.readWord 0 = .ok 0 := by decide
  refine .inputLine hzero (by decide) fun line hline => ?_
  have hlength := hshort line hline
  have hsize : lineBuffer.size = 32 := rfl
  refine ⟨(?_ : 0 + line.length ≤ 8), (?_ : 16 + 0 + line.length ≤ lineBuffer.size), Or.inl (?_ : 4 + 4 ≤ 16 + 0)⟩
  · omega
  · omega
  · omega

/-- Of two typed lines the second is read by a read that skips the line feed of the first. -/
theorem delivers_lines_typed :
    let first := Act.inputLine lineBuffer 0 false 16 0 4 8
    let second := Act.inputLine lineBuffer 0 true 16 0 4 8
    ∃ e e', twoLines.run [first] = some e ∧ e.after second = some e' ∧
      (second.reply e).memory.read 16 1 = .ok [0x62].toByteArray ∧ e'.finished = false := by
  intro first second
  have hfile : twoLines.file 0 = .ok (.keyboard "a \nb".toUTF8 .start) := file_push rfl _
  have hreads := readsLine_lineBuffer (by decide : ∀ line ∈ linesIn "a \nb".toUTF8, line.length ≤ 8)
  have hnothing : twoLines.run [] = some twoLines := rfl
  obtain ⟨-, d, -, hafter, -, -, -, hstill⟩ := delivers_lines hfile rfl hnothing
    (List.forall_mem_singleton.mpr (hreads false)) (List.forall_mem_nil _)
  have hrun : twoLines.run [first] = some d := by
    rw [run_of_after hafter]
    rfl
  have hacts : ∀ a ∈ worksOn 0 [first] ++ [second], a.ReadsLine 0 (linesIn "a \nb".toUTF8) :=
    List.forall_mem_cons.mpr ⟨hreads false, List.forall_mem_singleton.mpr (hreads true)⟩
  obtain ⟨start, d', hstart, hafter', -, ⟨hline, -⟩, -, hfinished⟩ :=
    delivers_lines hfile rfl hrun hacts (List.forall_mem_singleton.mpr rfl)
  have hzero : lineBuffer.readWord 0 = .ok 0 := by decide
  cases hzero.symm.trans hstart
  refine ⟨d, d', hrun, hafter', hline, ?_⟩
  rw [hfinished, hstill]
  rfl

/-! ## Reading short lines -/

section Short
variable {line : ByteArray}

theorem lineAt_eq {position : Nat}
    (h : (textFrom content position).takeWhile (fun b => !(b == 0x0A)) = line.data.toList) :
    lineAt content position = line :=
  ByteArray.ext (Array.toList_inj.mp ((toList_lineAt content position).trans h))

/-- The memory of a guest that has read a line. -/
def lineShown (line : ByteArray) : Memory :=
  let index := UInt32.ofNat (trimmedLength line)
  ((lineBuffer.patch 4 (Memory.wordBytes 0)).patch 16 line).patch 4 (Memory.wordBytes index)

/-- The guest reads a line into its line buffer. -/
theorem shows_line (bypass : Bool) {cursor' : Cursor} (hfile : d.file 0 = .ok (f.withCursor cursor))
    (hsource : f.source? = some (content, cursor')) (hmore : (cursor.skipped bypass).linePosition < content.size)
    (hline : lineAt content (cursor.skipped bypass).linePosition = line) (hshort : line.size ≤ 8) :
    ∃ e, d.after (.inputLine lineBuffer 0 bypass 16 0 4 8) = some e ∧
      e.file 0 = .ok (f.withCursor { cursor.skipped bypass with
        linePosition := (cursor.skipped bypass).linePosition + line.size, atLineEnd := true }) ∧
      (Act.inputLine lineBuffer 0 bypass 16 0 4 8).reply d = ⟨.ok (.flag true), lineShown line⟩ := by
  have hzero : lineBuffer.readWord 0 = .ok 0 := by decide
  have hlast : (4 : UInt32).toNat + 4 ≤ lineBuffer.size := by decide
  have hbuffer : (16 : UInt32).toNat < 2 ^ 32 := by decide
  have hroom : 16 + 0 + line.size ≤ 32 := by omega
  obtain ⟨o, hends, hcomes⟩ := comesTo_inputLine hfile (source?_withCursor hsource cursor) lineBuffer bypass 16 0 4 8
  have ho := hends.eq_delivered hzero hlast hmore hline hbuffer ((Nat.zero_add _).trans_le hshort) hroom
  have hdelivered : o.result = .ok true := congrArg Outcome.result ho
  refine ⟨_, hcomes.after_eq_of_ok hdelivered, ?_, ?_⟩
  · rw [file_desk hfile, ho, withCursor_withCursor]
  · have hindex : (0 : UInt32).toNat + trimmedLength line = trimmedLength line := Nat.zero_add _
    rw [hcomes.reply, ho, hindex]
    rfl

end Short

/-- The desk of a session that stores a file and opens it. -/
def opened (content : ByteArray) : Desk :=
  (((Desk.start .empty fun _ => none).insert "a.tex" content).push (.regular (.opened "a.tex" .read content))).2

theorem run_opened (content : ByteArray) (acts : List Act) :
    (Desk.start .empty fun _ => none).run (.insert "a.tex" content :: .openFile "a.tex" .read false :: acts) =
      (opened content).run acts := by
  let d := (Desk.start .empty fun _ => none).insert "a.tex" content
  have hinsert : (Desk.start .empty fun _ => none).after (.insert "a.tex" content) = some d := rfl
  have hstored : d.contents["a.tex"]? = some content := Std.HashMap.getElem?_insert_self
  have hmetric : d.metric "a.tex" .read = none := rfl
  have hpush : d.open "a.tex" .read false = d.push (.regular (.opened "a.tex" .read content)) := by
    rw [Desk.open, hmetric, hstored]
  have hopen : d.after (.openFile "a.tex" .read false) = some (opened content) :=
    congrArg (fun result => some (Prod.snd result)) hpush
  rw [run_of_after hinsert, run_of_after hopen]

theorem file_opened (content : ByteArray) :
    (opened content).file 0 = .ok ((OpenFile.regular (.opened "a.tex" .read content)).withCursor .start) :=
  file_push rfl _

end Desk
end Galley
