import Galley.File.Desk

/-! # What an operation says at the console

A read touches the console and the mark of the end only where it finishes the run: when it
has used up the script of the terminal.  A `get` does so where its position is past the
script (`Desk.endsWith_get`), and a line read where there is no line left
(`Desk.endsWith_inputLine`).  Both do it last, so that a read that fails leaves the two as
they were.  A write prints what it writes, or writes it to a file (`Desk.write_cases`). -/
namespace Galley.Desk

/-- What finishing the run changes: the console, and the mark of the end. -/
def voice (d : Desk) : Console × Bool := (d.console, d.finished)

variable {α β : Type} {v : Console × Bool} {Q : α → Console × Bool → Prop} {Q' : β → Console × Bool → Prop}

/-- A read of the terminal is past the end of its script. -/
def isExhausted (d : Desk) (handle : Int32) : Bool :=
  match d.file handle with
  | .ok (.keyboard content cursor) => content.size ≤ cursor.position
  | _ => false

/-- The handle is one of the terminal's script. -/
def isKeyboard (d : Desk) (handle : Int32) : Bool :=
  match d.file handle with
  | .ok (.keyboard ..) => true
  | _ => false

/-- What is written to the handle goes to the console. -/
def showsAt (d : Desk) (handle : Int32) : Bool :=
  handle < 0 || match d.file handle with
    | .ok .screen => true
    | _ => false

/-- The held line is ended and the end is marked, or both stay as they are. -/
def finishedIf (ends : Bool) (v : Console × Bool) : Console × Bool := if ends then (v.1.flush, true) else v

/-- An operation that succeeds does `Q` to the voice `v`; one that fails leaves it. -/
def EndsWith (v : Console × Bool) (Q : α → Console × Bool → Prop) : EStateM.Result FileFailure Seat α → Prop
  | .ok a x => Q a x.desk.voice
  | .error _ x => x.desk.voice = v

theorem EndsWith.bind {op : Operation α} {k : α → Operation β} {x : Seat}
    (h : EndsWith v (fun _ v' => v' = v) (op x))
    (hk : ∀ a {x : Seat}, x.desk.voice = v → EndsWith v Q' (k a x)) : EndsWith v Q' ((op >>= k) x) := by
  change EndsWith v Q' (EStateM.bind op k x)
  simp only [EStateM.bind]
  generalize op x = r at h ⊢
  cases r with
  | ok a x => exact hk a h
  | error e x => exact h

section Reading
open Operation

variable {x : Seat} {handle : Int32}

theorem endsWith_setCursor (h : x.desk.voice = v) (f : OpenFile) (cursor : Cursor) :
    EndsWith v (fun _ v' => v' = v) (setCursor handle f cursor x) := h

theorem endsWith_access (h : x.desk.voice = v) (a : Memory.Access α) :
    EndsWith v (fun _ v' => v' = v) (access a x) := by
  unfold access
  split <;> exact h

theorem endsWith_look (h : x.desk.voice = v) (read : Memory → Except Memory.Fault α) :
    EndsWith v (fun _ v' => v' = v) (look read x) := by
  unfold look
  split <;> exact h

theorem endsWith_advance (h : x.desk.voice = v) (cursor : Cursor) (first : UInt8) (length : Nat) :
    EndsWith v (fun _ v' => v' = v) (advance cursor first length x) := by
  unfold advance
  split <;> exact h

theorem endsWith_finish (h : x.desk.voice = v) :
    EndsWith v (fun _ v' => v' = (v.1.flush, true)) (onDesk finish x) :=
  congrArg (fun v : Console × Bool => (v.1.flush, true)) h

theorem byteAt?_eq_none_iff {bytes : ByteArray} {i : Nat} : byteAt? bytes i = none ↔ bytes.size ≤ i := by
  rw [byteAt?]
  split <;> simp <;> omega

theorem endsWith_getKeyboard (h : x.desk.voice = v) (content : ByteArray) (cursor : Cursor) (offset length : Nat) :
    EndsWith v (fun _ v' => v' = finishedIf (decide (content.size ≤ cursor.position)) v)
      (getKeyboard handle content cursor offset length x) := by
  unfold getKeyboard
  cases hbyte : byteAt? content cursor.position with
  | some byte =>
    have hinside : ¬ content.size ≤ cursor.position := by
      rw [← byteAt?_eq_none_iff, hbyte]
      nofun
    rw [decide_eq_false hinside]
    refine (endsWith_access h _).bind fun _ x h => ?_
    exact (endsWith_advance h ..).bind fun cursor' x h => endsWith_setCursor h ..
  | none =>
    rw [decide_eq_true (byteAt?_eq_none_iff.mp hbyte)]
    refine (endsWith_setCursor h ..).bind fun _ x h => ?_
    refine (endsWith_access h _).bind fun _ x h => ?_
    refine (endsWith_advance h ..).bind fun _ x h => ?_
    exact (endsWith_setCursor h ..).bind fun _ x h => endsWith_finish h

theorem endsWith_getRegular (h : x.desk.voice = v) (f : RegularFile) (offset length : Nat) :
    EndsWith v (fun _ v' => v' = v) (getRegular handle f offset length x) := by
  unfold getRegular
  split
  · exact endsWith_setCursor h ..
  · refine (endsWith_look h _).bind fun _ x h => ?_
    cases byteAt? (f.readAtCursor length) 0 with
    | none => exact (endsWith_access h _).bind fun _ x h => endsWith_setCursor h ..
    | some first =>
      refine (endsWith_access h _).bind fun _ x h => ?_
      exact (endsWith_advance h ..).bind fun _ x h => endsWith_setCursor h ..

/-- **A `get` finishes the run** where it is past the script of the terminal. -/
theorem endsWith_get (d : Desk) (m : Memory) (handle : Int32) (offset length : Nat) :
    EndsWith d.voice (fun _ v => v = finishedIf (d.isExhausted handle) d.voice)
      (get handle offset length ⟨d, m⟩) := by
  simp only [get, bind, EStateM.bind, Operation.file, isExhausted]
  cases d.file handle with
  | error e => exact rfl
  | ok f =>
    cases f with
    | keyboard content cursor => exact endsWith_getKeyboard rfl content cursor offset length
    | screen => exact rfl
    | regular f => exact endsWith_getRegular rfl f offset length

theorem endsWith_lineFrom (h : x.desk.voice = v) (f : OpenFile) (content : ByteArray) (cursor : Cursor)
    (isTerminal : Bool) (r : LineRequest) :
    EndsWith v (fun more v' => v' = finishedIf (isTerminal && !more) v)
      (lineFrom handle f content cursor isTerminal r x) := by
  unfold lineFrom
  generalize (if (r.bypass && !cursor.atEnd && cursor.atLineEnd) = true then 1 else 0) = skip
  refine (endsWith_look h _).bind fun first x h => ?_
  refine (endsWith_access h _).bind fun _ x h => ?_
  refine (endsWith_setCursor h ..).bind fun _ x h => ?_
  split
  · refine (endsWith_setCursor h ..).bind fun _ x h => ?_
    cases isTerminal with
    | true => exact congrArg (fun v : Console × Bool => (v.1.flush, true)) h
    | false => exact h
  · have hmore : finishedIf (isTerminal && !true) v = v := by
      rw [Bool.not_true, Bool.and_false]
      rfl
    dsimp only
    split
    · exact h
    · split
      · exact h
      · refine (endsWith_access h _).bind fun _ x h => ?_
        refine (endsWith_access h _).bind fun _ x h => ?_
        exact (endsWith_setCursor h ..).bind fun _ x h => h.trans hmore.symm

/-- **A line read finishes the run** where no line of the terminal's script is left. -/
theorem endsWith_inputLine (d : Desk) (m : Memory) (handle : Int32) (r : LineRequest) :
    EndsWith d.voice (fun more v => v = finishedIf (d.isKeyboard handle && !more) d.voice)
      (inputLine handle r ⟨d, m⟩) := by
  simp only [inputLine, bind, EStateM.bind, Operation.file, isKeyboard]
  cases d.file handle with
  | error e => exact rfl
  | ok f =>
    cases f with
    | keyboard content cursor => exact endsWith_lineFrom rfl _ content cursor true r
    | screen => exact rfl
    | regular f => exact endsWith_lineFrom rfl _ f.buffer f.cursor false r

end Reading

section Writing
variable {d d' : Desk} {handle : Int32} {f : OpenFile}

/-- The handle of a file is its place in the table. -/
theorem toInt_of_file (h : d.file handle = .ok f) : handle.toInt = (handle.toInt.toNat : Int) := by
  rw [file] at h
  split at h
  · cases h
  next hneg =>
    rw [Int32.lt_iff_toInt_lt, Int32.toInt_zero] at hneg
    omega

theorem showsAt_eq_true_iff : d.showsAt handle = true ↔ handle < 0 ∨ d.file handle = .ok .screen := by
  rw [showsAt, Bool.or_eq_true, decide_eq_true_eq]
  cases d.file handle with
  | error e => simp
  | ok f => cases f <;> simp

/-- A write prints what it writes, or puts what `RegularFile.write` gives in the place of a
file. -/
theorem write_cases {data : ByteArray} (h : d.write handle data = .ok d') :
    (d.showsAt handle = true ∧ d' = d.print data) ∨
      (d.showsAt handle = false ∧
        ∃ f f', d.file handle = .ok (.regular f) ∧ f.write data = some f' ∧ d' = d.setFile handle (.regular f')) := by
  rw [write] at h
  by_cases hneg : handle < 0
  · rw [if_pos hneg] at h
    cases h
    exact Or.inl ⟨showsAt_eq_true_iff.mpr (Or.inl hneg), rfl⟩
  · rw [if_neg hneg] at h
    cases hfile : d.file handle with
    | error e =>
      rw [hfile] at h
      cases h
    | ok f =>
      rw [hfile] at h
      cases f with
      | keyboard content cursor => cases h
      | screen =>
        cases h
        exact Or.inl ⟨showsAt_eq_true_iff.mpr (Or.inr hfile), rfl⟩
      | regular f =>
        have hshows : d.showsAt handle = false := by
          rw [Bool.eq_false_iff, ne_eq, showsAt_eq_true_iff, hfile]
          rintro (hneg' | hscreen)
          · exact hneg hneg'
          · cases hscreen
        dsimp only at h
        split at h
        · cases h
        next f' hwrite =>
          cases h
          exact Or.inr ⟨hshows, f, f', rfl, hwrite, rfl⟩

end Writing

end Galley.Desk
