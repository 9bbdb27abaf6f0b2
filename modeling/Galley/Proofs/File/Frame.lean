import Galley.Proofs.File.Comparing
import Galley.Proofs.File.Writing

/-! # What file operations leave alone

An operation on an open file reads and changes only the table, the console and the end
mark of a desk: the stored contents stay, the tag of every open file stays, and with
other contents the operation would have done the same.  `Seat.Alike` relates two seats
of which the second has other contents, and a memory that is alike; the operations that
the guest calls on open files keep it. -/
namespace Galley

/-! ## Tags -/

/-- What no operation on an open file changes: its name, its direction, and whether it was
found.  The terminal has none of these. -/
def OpenFile.tag : OpenFile → Option (String × Mode × Bool)
  | .regular f => some (f.name, f.mode, f.isOpen)
  | _ => none

@[simp] theorem OpenFile.tag_withCursor (f : OpenFile) (cursor : Cursor) :
    (f.withCursor cursor).tag = f.tag := by
  cases f <;> rfl

namespace Desk

/-- The tags of all opened files. -/
def tags (d : Desk) : Array (Option (String × Mode × Bool)) := d.table.map OpenFile.tag

/-- The desk with other contents. -/
def withContents (d : Desk) (contents : Std.HashMap String ByteArray) : Desk := { d with contents }

theorem tags_setFile {d : Desk} {handle : Int32} {f : OpenFile}
    (h : d.tags[handle.toInt.toNat]? = some f.tag) : (d.setFile handle f).tags = d.tags := by
  refine Array.ext_getElem? fun i => ?_
  rw [tags, Array.getElem?_map] at h
  obtain ⟨g, hg, htag⟩ := Option.map_eq_some_iff.mp h
  rw [tags, setFile, Array.getElem?_map, Array.getElem?_setIfInBounds, tags, Array.getElem?_map]
  split
  next hi =>
    rw [← hi, if_pos (Array.getElem?_eq_some_iff.mp hg).1, hg, Option.map_some, Option.map_some, htag]
  next => rfl

/-- A file that is there has its tag at its handle. -/
theorem tags_of_file {d : Desk} {handle : Int32} {f : OpenFile} (h : d.file handle = .ok f) :
    d.tags[handle.toInt.toNat]? = some f.tag := by
  rw [file] at h
  split at h
  · cases h
  · rw [tags, Array.getElem?_map]
    cases htable : d.table[handle.toInt.toNat]? with
    | none =>
      rw [htable] at h
      cases h
    | some g =>
      rw [htable] at h
      cases h
      rfl

/-- The desk has the contents, the tags and the fonts of another one. -/
structure Keeps (d₀ d : Desk) : Prop where
  contents : d.contents = d₀.contents
  tags : d.tags = d₀.tags
  fonts : d.fonts = d₀.fonts

theorem Keeps.refl (d : Desk) : d.Keeps d := ⟨rfl, rfl, rfl⟩

theorem Keeps.trans {d₀ d d' : Desk} (h : d₀.Keeps d) (h' : d.Keeps d') : d₀.Keeps d' :=
  ⟨h'.contents.trans h.contents, h'.tags.trans h.tags, h'.fonts.trans h.fonts⟩

/-! ## Two seats -/

/-- The second seat has other contents, and a memory alike; the first has kept what `x₀`
has. -/
structure Seat.Alike (b : ControlBlock) (x₀ : Seat) (contents : Std.HashMap String ByteArray)
    (x y : Seat) : Prop where
  kept : x₀.desk.Keeps x.desk
  size : x.memory.size = x₀.memory.size
  desk : y.desk = x.desk.withContents contents
  memory : b.Alike x.memory y.memory

variable {b : ControlBlock} {x₀ : Seat} {contents : Std.HashMap String ByteArray} {x y : Seat}

open Operation

theorem paired_onDesk (h : Seat.Alike b x₀ contents x y) {change : Desk → Desk}
    (hkept : x₀.desk.Keeps (change x.desk))
    (hchange : change (x.desk.withContents contents) = (change x.desk).withContents contents) :
    Paired (Seat.Alike b x₀ contents) (onDesk change x) (onDesk change y) :=
  .ok ⟨hkept, h.size, by rw [h.desk, hchange], h.memory⟩

theorem paired_write (h : Seat.Alike b x₀ contents x y) (offset : Nat) (data : ByteArray) :
    Paired (Seat.Alike b x₀ contents) (access (Memory.write offset data) x)
      (access (Memory.write offset data) y) := by
  have hwrite := h.memory.write offset data
  simp only [access]
  cases hx : Memory.write offset data x.memory with
  | ok u m =>
    cases hy : Memory.write offset data y.memory with
    | ok u' m' =>
      rw [hx, hy] at hwrite
      cases hwrite with
      | ok halike => exact .ok ⟨h.kept, (Memory.size_of_write hx).trans h.size, h.desk, halike⟩
    | error fault m' =>
      rw [hx, hy] at hwrite
      cases hwrite
  | error fault m =>
    cases hy : Memory.write offset data y.memory with
    | ok u' m' =>
      rw [hx, hy] at hwrite
      cases hwrite
    | error fault' m' =>
      rw [hx, hy] at hwrite
      cases hwrite with
      | error halike =>
        obtain rfl := Memory.eq_of_write_error hx
        exact .error ⟨h.kept, h.size, h.desk, halike⟩

/-- The steps of an operation keep two seats alike, as long as the tag of the file is known. -/
theorem Seat.congruent_alike (b : ControlBlock) (x₀ : Seat) (contents : Std.HashMap String ByteArray) (handle : Int32) :
    Seat.Congruent (Seat.Alike b x₀ contents) handle fun f => x₀.desk.tags[handle.toInt.toNat]? = some f.tag where
  size h := h.memory.size
  file h := by
    rw [h.desk]
    rfl
  fits_file h hf := by
    rw [← h.kept.tags]
    exact tags_of_file hf
  setCursor h hf cursor := by
    refine paired_onDesk h ⟨h.kept.contents, ?_, h.kept.fonts⟩ rfl
    rw [tags_setFile (by rw [OpenFile.tag_withCursor, h.kept.tags, hf]), h.kept.tags]
  finish h := paired_onDesk h ⟨h.kept.contents, h.kept.tags, h.kept.fonts⟩ rfl
  write h := paired_write h

theorem paired_get (h : Seat.Alike b x₀ contents x y) (handle : Int32) (offset length : Nat) :
    Paired (Seat.Alike b x₀ contents) (get handle offset length x) (get handle offset length y) :=
  (Seat.congruent_alike b x₀ contents handle).get h offset length

theorem paired_inputLine (h : Seat.Alike b x₀ contents x y) (handle : Int32) {r : LineRequest}
    (hfirst : x.memory.readWord r.first = y.memory.readWord r.first) :
    Paired (Seat.Alike b x₀ contents) (inputLine handle r x) (inputLine handle r y) :=
  (Seat.congruent_alike b x₀ contents handle).inputLine h hfirst

/-! ## Writing -/

/-- What is written to a desk does not depend on its contents. -/
theorem write_withContents (d : Desk) (handle : Int32) (data : ByteArray) :
    (d.withContents contents).write handle data = (d.write handle data).map (·.withContents contents) := by
  simp only [write, show (d.withContents contents).file handle = d.file handle from rfl]
  repeat' split
  all_goals rfl

theorem tag_write {f f' : RegularFile} {data : ByteArray} (h : f.write data = some f') :
    (OpenFile.regular f').tag = (OpenFile.regular f).tag := by
  obtain ⟨hname, hmode, hopen⟩ := RegularFile.rest_of_write h
  simp only [OpenFile.tag, hname, hmode, hopen]

theorem keeps_write {d d' : Desk} {handle : Int32} {data : ByteArray} (h : d.write handle data = .ok d') :
    d.Keeps d' := by
  rw [write] at h
  split at h
  · cases h
    exact ⟨rfl, rfl, rfl⟩
  · cases hfile : d.file handle with
    | error e =>
      rw [hfile] at h
      cases h
    | ok f =>
      rw [hfile] at h
      cases f with
      | keyboard content cursor => cases h
      | screen =>
        cases h
        exact ⟨rfl, rfl, rfl⟩
      | regular f =>
        dsimp only at h
        cases hwrite : f.write data with
        | none =>
          rw [hwrite] at h
          cases h
        | some f' =>
          rw [hwrite] at h
          cases h
          exact ⟨rfl, tags_setFile ((tags_of_file hfile).trans (congrArg some (tag_write hwrite).symm)), rfl⟩

end Desk
end Galley
