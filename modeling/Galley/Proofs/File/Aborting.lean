import Galley.Proofs.File.Acts
import Galley.Proofs.File.Writing
import Galley.Proofs.Steps
import Mathlib.Algebra.GroupWithZero.Nat

/-! # When the host cannot go on

After acts that move `n` bytes altogether no file stands beyond position `n` and no buffer is
larger than `2 * n` (`Desk.within_run`).  Until that comes near the bounds of the machine one
thing only can stop the host: a write of no bytes at all to a file that stands past the end
of its buffer (`Desk.after_eq_none_iff`).  A read that asks for more than there is brings a
file there (`Desk.after_eq_none_of_long_get`). -/
namespace Galley

/-! ## Loads -/

/-- The size of the metric that the source has for a file name. -/
def FontSource.load (fonts : FontSource) (name : String) : Nat :=
  ((fonts (FileName.fontOf name)).map ByteArray.size).getD 0

/-- How many bytes an act moves. -/
def Act.load (fonts : FontSource) : Act → Nat
  | .insert _ content => content.size
  | .openFile name _ _ => fonts.load name
  | .openRaw raw _ _ =>
    match FileName.parse raw.data.toList with
    | .terminal => 0
    | .file name => fonts.load name
  | .get _ _ _ length => length.toNat
  | .put _ _ _ length => length.toNat
  | .write _ data => data.size
  | _ => 0

theorem Act.Opens.load {a : Act} {name : String} {mode : Mode} {resuming : Bool} (h : a.Opens name mode resuming)
    (fonts : FontSource) : a.load fonts = fonts.load name := by
  rcases h with rfl | ⟨raw, rfl, hparse⟩
  · rfl
  · simp only [Act.load, hparse]

theorem Act.load_of_written? {a : Act} {handle : Int32} {data : ByteArray} (h : a.written? = some (handle, data))
    (fonts : FontSource) : data.size ≤ a.load fonts := by
  cases a with
  | write handle' data' =>
    cases h
    exact Nat.le_refl _
  | put m handle' pointer length =>
    simp only [Act.written?, Memory.read] at h
    split at h
    · cases h
      simp only [slice, ByteArray.size_extract, Act.load]
      omega
    · cases h
  | _ => cases h

/-- The file stands at a position up to `n`, and its buffer is at most twice as large. -/
def OpenFile.Within (n : Nat) : OpenFile → Prop
  | .keyboard _ cursor => cursor.position ≤ n
  | .screen => True
  | .regular f => f.cursor.position ≤ n ∧ f.buffer.size ≤ 2 * n

theorem OpenFile.Within.mono {n n' : Nat} {f : OpenFile} (h : f.Within n) (hn : n ≤ n') : f.Within n' := by
  cases f with
  | keyboard content cursor => exact Nat.le_trans h hn
  | screen => trivial
  | regular f => exact ⟨Nat.le_trans h.1 hn, Nat.le_trans h.2 (Nat.mul_le_mul_left 2 hn)⟩

theorem OpenFile.Within.position {n : Nat} {f : OpenFile} (h : f.Within n) : f.position ≤ n := by
  cases f with
  | keyboard content cursor => exact h
  | screen => exact Nat.zero_le n
  | regular f => exact h.1

theorem OpenFile.Within.turned {n length : Nat} {f f' : OpenFile} (h : f.Within n) (hf : f.Turned length f') :
    f'.Within (n + length) := by
  obtain ⟨cursor, rfl, hposition⟩ := hf
  have hold := h.position
  have hnew : cursor.position ≤ n + length := by omega
  cases f with
  | keyboard content cursor' => exact hnew
  | screen => trivial
  | regular f => exact ⟨hnew, Nat.le_trans h.2 (Nat.mul_le_mul_left 2 (Nat.le_add_right n length))⟩

/-- What an act makes of a file stays within what the act moves. -/
theorem Act.Effect.within {n : Nat} {a : Act} {handle : Int32} {f f' : OpenFile} (h : a.Effect handle f f')
    (hf : f.Within n) (fonts : FontSource) : f'.Within (n + a.load fonts) := by
  cases h with
  | get hturned => exact hf.turned hturned
  | inputLine hturned => exact hf.turned hturned
  | @write _ _ data f f' hdata hwrite =>
    have hload := Act.load_of_written? hdata fonts
    obtain ⟨hposition, hsize⟩ := RegularFile.write_eq_some hwrite
    have hgrow := RegularFile.grow_le f.cursor.position data.size f.buffer.size
    obtain ⟨hold, hbuffer⟩ := hf
    constructor
    · omega
    · omega

namespace Desk

variable {d d' : Desk} {n : Nat}

/-- Nothing that is stored is larger than `n`, and no opened file has gone further. -/
structure Within (n : Nat) (d : Desk) : Prop where
  contents : ∀ {name : String} {content : ByteArray}, d.contents[name]? = some content → content.size ≤ n
  table : ∀ {f}, f ∈ d.table → f.Within n

theorem Within.mono {n' : Nat} (h : d.Within n) (hn : n ≤ n') : d.Within n' where
  contents hcontent := Nat.le_trans (h.contents hcontent) hn
  table hf := (h.table hf).mono hn

theorem Within.push (h : d.Within n) {f : OpenFile} (hf : f.Within n) : (d.push f).2.Within n where
  contents := h.contents
  table hmem := by
    rcases Array.mem_push.mp hmem with hmem | rfl
    · exact h.table hmem
    · exact hf

/-- What the table has of a name is no larger than the buffers in it. -/
theorem Within.previous (h : d.Within n) {name : String} {content : ByteArray}
    (hprevious : d.previous name = some content) :
    content.size ≤ 2 * n := by
  obtain ⟨f, hmem, hpick⟩ := mem_table_of_latest hprevious
  have hbuffer := (h.table hmem).2
  -- a file that is being written shows what was written, another one its buffer
  split at hpick
  · cases Option.some.inj hpick
    split
    · simp only [RegularFile.written, ByteArray.size_extract]
      omega
    · exact hbuffer
  · cases hpick

/-- What an open finds stays within what it moves. -/
theorem Within.finds (h : d.Within n) {name : String} {mode : Mode} {f : RegularFile} (hf : d.Finds name mode f) :
    (OpenFile.regular f).Within (n + d.fonts.load name) := by
  have hopened {content : ByteArray} (hsize : content.size ≤ 2 * (n + d.fonts.load name)) :
      (OpenFile.regular (.opened name mode content)).Within (n + d.fonts.load name) := ⟨Nat.zero_le _, hsize⟩
  cases hf with
  | @metric mode data hmetric =>
    refine hopened ?_
    rw [Desk.metric] at hmetric
    split at hmetric
    · rw [FontSource.load, hmetric, Option.map_some, Option.getD_some]
      omega
    · cases hmetric
  | stored _ hcontent =>
    have hsize := h.contents hcontent
    exact hopened (by omega)
  | fresh => exact hopened (Nat.zero_le _)
  | previous hprevious =>
    have hsize := h.previous hprevious
    exact hopened (by omega)
  | missing _ => exact ⟨Nat.zero_le _, Nat.zero_le _⟩

/-- A step stays within what it moves. -/
theorem Within.step (h : d.Within n) {a : Act} (hstep : a.Step d d') : d'.Within (n + a.load d.fonts) := by
  cases hstep with
  | stored name content =>
    constructor
    · intro name' content' hcontent
      rw [insert, Std.HashMap.getElem?_insert] at hcontent
      split at hcontent
      · cases hcontent
        exact Nat.le_add_left ..
      · exact Nat.le_trans (h.contents hcontent) (Nat.le_add_right ..)
    · exact fun hf => (h.table hf).mono (Nat.le_add_right ..)
  | @opened a name mode resuming hopens =>
    rw [hopens.load]
    rcases d.finds_of_open name mode resuming with ⟨f, hfinds, hopen⟩ | hopen
    · rw [hopen]
      exact (h.mono (Nat.le_add_right ..)).push (h.finds hfinds)
    · rw [hopen]
      exact h.mono (Nat.le_add_right ..)
  | @terminal _ f hf =>
    refine (h.mono (Nat.le_add_right ..)).push ?_
    rcases hf with rfl | rfl
    · exact Nat.zero_le _
    · trivial
  | worked handle hworked =>
    constructor
    · intro name content hcontent
      rw [hworked.contents] at hcontent
      exact Nat.le_trans (h.contents hcontent) (Nat.le_add_right ..)
    · intro f' hf'
      rcases hworked.mem_table hf' with hf' | ⟨f, hf, heffect⟩
      · exact (h.table hf').mono (Nat.le_add_right ..)
      · exact heffect.within (h.table hf) d.fonts

/-- How many bytes acts move altogether. -/
def load (fonts : FontSource) (acts : List Act) : Nat := (acts.map (·.load fonts)).sum

theorem load_concat (fonts : FontSource) (acts : List Act) (a : Act) :
    load fonts (acts ++ [a]) = load fonts acts + a.load fonts := by
  rw [load, load, List.map_append, List.sum_append, List.map_singleton, List.sum_singleton]

/-- **Files stay within what the acts so far have moved.** -/
theorem within_run {script : ByteArray} {fonts : FontSource} {acts : List Act}
    (hrun : (Desk.start script fonts).run acts = some d) : d.fonts = fonts ∧ d.Within (load fonts acts) := by
  refine run_induction (P := fun acts d => d.fonts = fonts ∧ d.Within (load fonts acts)) ?_ ?_ hrun
  · refine ⟨rfl, ⟨fun hcontent => ?_, fun hf => ?_⟩⟩
    · cases Std.HashMap.getElem?_empty.symm.trans hcontent
    · cases Array.not_mem_empty _ hf
  · intro acts d a d' _ ⟨hfonts, hwithin⟩ hafter
    have hstep := step_of_after hafter
    have hnext := hwithin.step hstep
    rw [hfonts, ← load_concat] at hnext
    exact ⟨(fonts_of_step hstep).trans hfonts, hnext⟩

/-! ## The one thing that stops the host -/

/-- The act writes no bytes to a file that stands past the end of its buffer. -/
def WritesNothingPastEnd (d : Desk) (a : Act) : Prop :=
  ∃ handle data f, a.written? = some (handle, data) ∧ d.file handle = .ok (.regular f) ∧ data.size = 0 ∧
    f.buffer.size < f.cursor.position

/-- **The host goes on from every act but one kind.**  After acts that move fewer than `2 ^ 62`
bytes altogether, a further one stops the host exactly when it writes no bytes to a file that
stands past the end of its buffer.  Every other one ends well or with an error. -/
theorem after_eq_none_iff {script : ByteArray} {fonts : FontSource} {acts : List Act} {a : Act}
    (hrun : (Desk.start script fonts).run acts = some d) (hload : load fonts (acts ++ [a]) < 2 ^ 62) :
    d.after a = none ↔ d.WritesNothingPastEnd a := by
  obtain ⟨hfonts, hwithin⟩ := within_run hrun
  rw [load_concat] at hload
  have hwrite {handle : Int32} {data : ByteArray} {f : RegularFile} (hdata : a.written? = some (handle, data))
      (hfile : d.file handle = .ok (.regular f)) :
      f.write data = none ↔ data.size = 0 ∧ f.buffer.size < f.cursor.position := by
    obtain ⟨hposition, hbuffer⟩ := hwithin.table (Array.mem_of_getElem? (getElem?_of_file hfile))
    have hmoved := Act.load_of_written? hdata fonts
    have hmax : RegularFile.maxCapacity = 2 ^ 63 - 1 := rfl
    exact RegularFile.write_eq_none_iff (by omega) (by omega)
  -- so little has been moved that no position overflows, and no buffer its capacity
  constructor
  · intro hnone
    cases fatal_of_after hnone with
    | @get m handle pointer length f hfile hbound =>
      have hposition := (hwithin.table (Array.mem_of_getElem? (getElem?_of_file hfile))).position
      have hlength : (Act.get m handle pointer length).load fonts = length.toNat := rfl
      have hword : wordBound = 2 ^ 64 := rfl
      omega
    | write hdata hfile hnone => exact ⟨_, _, _, hdata, hfile, (hwrite hdata hfile).mp hnone⟩
  · rintro ⟨handle, data, f, hdata, hfile, hpast⟩
    exact after_of_write_eq_none hdata hfile ((hwrite hdata hfile).mpr hpast)

/-- A read at the start of a file that is not empty moves the file on by the length asked for,
however many bytes there are. -/
theorem get_of_opened {m : Memory} {handle : Int32} {pointer length : UInt32} {name : String} {content : ByteArray}
    (hfile : d.file handle = .ok (.regular (.opened name .read content))) (hcontent : 0 < content.size)
    (hlength : 0 < length.toNat) (hroom : pointer.toNat + length.toNat ≤ m.size) :
    ∃ cursor, cursor.position = length.toNat ∧
      d.after (.get m handle pointer length) =
        some (d.setFile handle (.regular { RegularFile.opened name .read content with cursor })) := by
  let data := slice content 0 length.toNat
  have hsize : data.size = min length.toNat content.size := by
    simp only [data, slice, ByteArray.size_extract]
    omega
  have hpos : 0 < data.size := by omega
  have hfirst : byteAt? data 0 = some data[0] := dif_pos hpos
  have hread : m.read pointer.toNat length.toNat = .ok (slice m.bytes pointer.toNat length.toNat) := by
    rw [Memory.read, Memory.covers, if_pos (decide_eq_true hroom)]
  have hwrite : Memory.write pointer.toNat data m = .ok () ⟨splice m.bytes pointer.toNat data⟩ :=
    Memory.write_eq_ok (by omega)
  have hword : 0 + length.toNat < wordBound := by
    have hlt := length.toNat_lt
    have hbound : wordBound = 2 ^ 64 := rfl
    omega
  let cursor : Cursor := ⟨0 + length.toNat, 0, false, endsLine data[0]⟩
  refine ⟨cursor, Nat.zero_add _, ?_⟩
  -- the cursor moves by the length that was asked for, also where the file has less
  have hget : get handle pointer.toNat length.toNat ⟨d, m⟩ =
      .ok () ⟨d.setFile handle (.regular { RegularFile.opened name .read content with cursor }),
        ⟨splice m.bytes pointer.toNat data⟩⟩ := by
    have hopen : (RegularFile.opened name .read content).isOpen = true := rfl
    have hdata : (RegularFile.opened name .read content).readAtCursor length.toNat = data := rfl
    rw [get, bind_of_ok (a := .regular (.opened name .read content)) (by rw [Operation.file, hfile])]
    simp only [getRegular, hopen, hdata, hfirst, Bool.not_true, Bool.false_eq_true, if_false]
    have hlook : Operation.look (·.read pointer.toNat length.toNat) ⟨d, m⟩ =
        .ok (slice m.bytes pointer.toNat length.toNat) ⟨d, m⟩ := by
      rw [Operation.look, hread]
    rw [bind_of_ok hlook]
    rw [bind_of_ok (a := ()) (by rw [Operation.access, hwrite])]
    have hadvance : advance (RegularFile.opened name .read content).cursor data[0] length.toNat = pure cursor :=
      if_pos hword
    rw [hadvance]
    rfl
  rw [after, Act.perform, Act.seated, hget]

/-- **A read that asks for more than a file has leads to where a write of nothing stops the
host**, whatever file that is not empty is stored. -/
theorem after_eq_none_of_long_get {name : String} {content : ByteArray} (hmetric : d.metric name .read = none)
    (hstored : d.contents[name]? = some content) (hcontent : 0 < content.size) {m : Memory} {handle : Int32}
    (hhandle : handle.toInt = d.table.size) {pointer length : UInt32}
    (hroom : pointer.toNat + length.toNat ≤ m.size) (hlong : content.size < length.toNat) (resuming : Bool) :
    ∃ d', d.run [.openFile name .read resuming, .get m handle pointer length] = some d' ∧
      d'.after (.write handle .empty) = none := by
  have hopen : d.open name .read resuming = d.push (.regular (.opened name .read content)) := by
    simp only [Desk.open, hmetric, hstored]
  have hfile := file_push hhandle (.regular (.opened name .read content))
  obtain ⟨cursor, hposition, hget⟩ := get_of_opened hfile hcontent (Nat.lt_trans hcontent hlong) hroom
  let f : RegularFile := { RegularFile.opened name .read content with cursor }
  refine ⟨_, ?_, after_of_write_eq_none (f := f) rfl (file_setFile hfile (.regular f)) ?_⟩
  · have hafter : d.after (.openFile name .read resuming) = some (d.open name .read resuming).2 := rfl
    rw [run_cons, hafter, Option.bind_some, hopen, run_cons, hget]
    rfl
  · have hbuffer : ¬ cursor.position ≤ content.size := by omega
    have hnothing : ByteArray.empty.size = 0 := rfl
    simp only [f, RegularFile.write, RegularFile.opened, hnothing, RegularFile.grow_nothing, Nat.add_zero,
      decide_eq_false hbuffer, Bool.false_and, Bool.false_eq_true, if_false]

/-- The acts after which a write of nothing stops the host: of a file of five bytes eight are
asked for. -/
def longGet : List Act :=
  [.insert "data.bin" "hello".toUTF8, .openFile "data.bin" .read false,
    .get ⟨(List.replicate 16 0).toByteArray⟩ 0 0 8]

theorem run_longGet :
    ∃ d, (Desk.start .empty fun _ => none).run longGet = some d ∧ d.after (.write 0 .empty) = none := by
  have hstored : ((Desk.start .empty fun _ => none).insert "data.bin" "hello".toUTF8).contents["data.bin"]? =
      some "hello".toUTF8 := Std.HashMap.getElem?_insert_self
  refine after_eq_none_of_long_get rfl hstored ?_ rfl ?_ ?_ false
  · decide
  · decide
  · decide

/-- Not every act that follows acts the host can go on from is one that it can go on from. -/
theorem write_nothing_stops_host :
    ¬ ∀ (script : ByteArray) (fonts : FontSource) (acts : List Act) (d : Desk),
      (Desk.start script fonts).run acts = some d → ∀ a, (d.after a).isSome := by
  intro h
  obtain ⟨d, hrun, hnone⟩ := run_longGet
  have hsome := h _ _ _ d hrun (.write 0 .empty)
  rw [hnone] at hsome
  cases hsome

theorem after_eq_none_iff_longGet :
    ∃ d, (Desk.start .empty fun _ => none).run longGet = some d ∧
      load (fun _ => none) (longGet ++ [.write 0 .empty]) < 2 ^ 62 ∧ d.WritesNothingPastEnd (.write 0 .empty) := by
  have hload : load (fun _ => none) (longGet ++ [.write 0 .empty]) < 2 ^ 62 := by decide
  obtain ⟨d, hrun, hnone⟩ := run_longGet
  exact ⟨d, hrun, hload, (after_eq_none_iff hrun hload).mp hnone⟩

end Desk
end Galley
