import Galley.Proofs.File.Frame
import Mathlib.Data.List.Induction

/-! # Acts at a desk

Everything that is done to the files of a session is an `Act`: the host stores a file or
finishes the run, and the guest opens a file, asks how it stands, reads it or writes to it,
each time over a memory of whatever content.  An act that fails with an error leaves the
desk as it then is, and one that the host cannot go on from leaves none (`Desk.after`).  A
`Desk.run` is what acts lead to, one after the other.

An act adds a file to the contents, adds one to the table, or works on the file behind one
handle (`Desk.after_cases`).  What it can do to that file is its `Effect`: reading moves the
cursor, by the length asked for or not at all, and writing does what `RegularFile.write`
does. -/
namespace Galley

/-- Something that is done to the files of a session.  The guest's addresses and lengths are
words of 32 bits. -/
inductive Act where
  | insert (name : String) (content : ByteArray)
  | openFile (name : String) (mode : Mode) (resuming : Bool)
  | openRaw (raw : ByteArray) (mode : Mode) (resuming : Bool)
  | close (handle : Int32)
  | atEnd (handle : Int32)
  | atLineEnd (handle : Int32)
  | status (handle : Int32)
  | get (memory : Memory) (handle : Int32) (pointer length : UInt32)
  | put (memory : Memory) (handle : Int32) (pointer length : UInt32)
  | write (handle : Int32) (data : ByteArray)
  | inputLine (memory : Memory) (handle : Int32) (bypass : Bool) (buffer first last capacity : UInt32)
  | finish

/-! ## What an act does -/

namespace Act

/-- Asks the files for something. -/
def asking {α : Type} (ask : Desk → Except FileError α) : EStateM FileFailure Desk Unit := fun d =>
  match ask d with
  | .ok _ => .ok () d
  | .error e => .error (.error e) d

/-- Changes the files, or fails and leaves them as they are. -/
def changing (change : Desk → Except FileFailure Desk) : EStateM FileFailure Desk Unit := fun d =>
  match change d with
  | .ok d' => .ok () d'
  | .error e => .error e d

/-- Runs an operation on the files and a memory. -/
def seated {α : Type} (m : Memory) (op : Desk.Operation α) : EStateM FileFailure Desk Unit := fun d =>
  match op ⟨d, m⟩ with
  | .ok _ x => .ok () x.desk
  | .error e x => .error e x.desk

/-- Does an act. -/
def perform : Act → EStateM FileFailure Desk Unit
  | insert name content => modify (·.insert name content)
  | openFile name mode resuming => modify fun d => (d.open name mode resuming).2
  | openRaw raw mode resuming => modify fun d => (d.openRaw raw mode resuming).2
  | close handle => asking (·.close handle)
  | atEnd handle => asking (·.atEnd handle)
  | atLineEnd handle => asking (·.atLineEnd handle)
  | status handle => asking (·.status handle)
  | get m handle pointer length => seated m (Desk.get handle pointer.toNat length.toNat)
  | put m handle pointer length => changing (·.put m handle pointer.toNat length.toNat)
  | write handle data => changing (·.write handle data)
  | inputLine m handle bypass buffer first last capacity =>
    seated m (Desk.inputLine handle
      { bypass, buffer := buffer.toNat, first := first.toNat, last := last.toNat, capacity := capacity.toNat })
  | finish => modify Desk.finish

/-- The act opens the file of that name. -/
def Opens (a : Act) (name : String) (mode : Mode) (resuming : Bool) : Prop :=
  a = .openFile name mode resuming ∨
    ∃ raw, a = .openRaw raw mode resuming ∧ FileName.parse raw.data.toList = .file name

/-- What the act writes to which handle. -/
def written? : Act → Option (Int32 × ByteArray)
  | write handle data => some (handle, data)
  | put m handle pointer length => (m.read pointer.toNat length.toNat).toOption.map fun data => (handle, data)
  | _ => none

end Act

/-- Where the next byte of a file is read or written. -/
def OpenFile.position : OpenFile → Nat
  | .keyboard _ cursor => cursor.position
  | .screen => 0
  | .regular f => f.cursor.position

/-- The same file with its cursor moved: the position stays or goes `length` bytes on. -/
def OpenFile.Turned (length : Nat) (f f' : OpenFile) : Prop :=
  ∃ cursor, f' = f.withCursor cursor ∧ (cursor.position = f.position ∨ cursor.position = f.position + length)

/-- What an act can make of the file behind a handle. -/
inductive Act.Effect : Act → Int32 → OpenFile → OpenFile → Prop where
  | get {m handle pointer length f f'} (h : OpenFile.Turned length.toNat f f') :
      Effect (.get m handle pointer length) handle f f'
  | inputLine {m handle bypass buffer first last capacity f f'} (h : OpenFile.Turned 0 f f') :
      Effect (.inputLine m handle bypass buffer first last capacity) handle f f'
  | write {a handle data} {f f' : RegularFile} (hdata : Act.written? a = some (handle, data))
      (h : f.write data = some f') : Effect a handle (.regular f) (.regular f')

theorem OpenFile.Turned.tag {length : Nat} {f f' : OpenFile} (h : f.Turned length f') : f'.tag = f.tag := by
  obtain ⟨cursor, rfl, -⟩ := h
  exact f.tag_withCursor cursor

theorem Act.Effect.tag {a : Act} {handle : Int32} {f f' : OpenFile} (h : a.Effect handle f f') :
    f'.tag = f.tag := by
  cases h with
  | get h => exact h.tag
  | inputLine h => exact h.tag
  | write _ h => exact Desk.tag_write h

namespace Desk

/-- The desk after an act; none if the host cannot go on. -/
def after (d : Desk) (a : Act) : Option Desk :=
  match a.perform d with
  | .ok _ d' => some d'
  | .error (.error _) d' => some d'
  | .error .abort _ => none

/-- What acts lead to, as long as the host can go on. -/
def run (d : Desk) (acts : List Act) : Option Desk := acts.foldlM after d

variable {d d' : Desk} {a : Act}

theorem run_cons (d : Desk) (a : Act) (acts : List Act) : d.run (a :: acts) = (d.after a).bind (·.run acts) := rfl

theorem run_concat (d : Desk) (acts : List Act) (a : Act) :
    d.run (acts ++ [a]) = (d.run acts).bind (·.after a) := by
  induction acts generalizing d with
  | nil => exact Option.bind_fun_some (d.after a)
  | cons b acts ih =>
    rw [List.cons_append, run_cons, run_cons, Option.bind_assoc]
    exact congrArg (Option.bind _) (funext ih)

theorem run_concat_of_after {d d' d'' : Desk} {acts : List Act} {a : Act} (hrun : d.run acts = some d')
    (hafter : d'.after a = some d'') : d.run (acts ++ [a]) = some d'' := by
  rw [run_concat, hrun, Option.bind_some, hafter]

/-- What every run keeps, with the acts so far in view. -/
theorem run_induction {d₀ : Desk} {P : List Act → Desk → Prop} (hstart : P [] d₀)
    (hafter : ∀ {acts d a d'}, d₀.run acts = some d → P acts d → d.after a = some d' → P (acts ++ [a]) d')
    {acts : List Act} (hrun : d₀.run acts = some d) : P acts d := by
  induction acts using List.reverseRecOn generalizing d with
  | nil =>
    cases hrun
    exact hstart
  | append_singleton acts a ih =>
    rw [run_concat] at hrun
    obtain ⟨d', hacts, hd⟩ := Option.bind_eq_some_iff.mp hrun
    exact hafter hacts (ih hacts) hd

/-! ## Operations that leave a property -/

section Leaves
variable {σ α β : Type} {bad : Prop} {Q : σ → Prop}

/-- The operation leaves a state with the property `Q`, unless it aborts, and then `bad` is
the case. -/
def Leaves (bad : Prop) (Q : σ → Prop) : EStateM.Result FileFailure σ α → Prop
  | .ok _ s => Q s
  | .error (.error _) s => Q s
  | .error .abort _ => bad

theorem Leaves.bind {op : EStateM FileFailure σ α} {k : α → EStateM FileFailure σ β} {s : σ}
    (h : Leaves bad Q (op s)) (hk : ∀ a {s}, Q s → Leaves bad Q (k a s)) : Leaves bad Q ((op >>= k) s) := by
  change Leaves bad Q (EStateM.bind op k s)
  simp only [EStateM.bind]
  generalize op s = r at h ⊢
  cases r with
  | ok a s => exact hk a h
  | error e s =>
    cases e with
    | error cause => exact h
    | abort => exact h

end Leaves

/-! ## Work on one file -/

/-- The second desk differs from the first in the file behind a handle, of which `R` says
what has become of it, and in the console at most. -/
structure Retouched (R : OpenFile → OpenFile → Prop) (handle : Int32) (d d' : Desk) : Prop where
  contents : d'.contents = d.contents
  fonts : d'.fonts = d.fonts
  script : d'.script = d.script
  table : d'.table = d.table ∨
    ∃ f f', d.file handle = .ok f ∧ R f f' ∧ d'.table = d.table.setIfInBounds handle.toInt.toNat f'

theorem getElem?_of_file {handle : Int32} {f : OpenFile} (h : d.file handle = .ok f) :
    d.table[handle.toInt.toNat]? = some f := by
  rw [file] at h
  split at h
  · cases h
  · split at h
    next hget =>
      cases h
      exact hget
    next => cases h

/-- A handle that is the size of the table names the file that is put there next. -/
theorem file_push {handle : Int32} (hhandle : handle.toInt = d.table.size) (f : OpenFile) :
    (d.push f).2.file handle = .ok f := by
  have hneg : ¬ handle < 0 := by
    rw [Int32.lt_iff_toInt_lt, hhandle]
    exact Int.not_lt.mpr (Int.natCast_nonneg _)
  have hindex : handle.toInt.toNat = d.table.size := by rw [hhandle, Int.toNat_natCast]
  simp only [file, push, if_neg hneg, hindex, Array.getElem?_push_size]

theorem file_setFile {handle : Int32} {f : OpenFile} (hfile : d.file handle = .ok f) (f' : OpenFile) :
    (d.setFile handle f').file handle = .ok f' := by
  have hneg : ¬ handle < 0 := by
    intro hneg
    rw [file, if_pos hneg] at hfile
    cases hfile
  obtain ⟨hlt, -⟩ := Array.getElem?_eq_some_iff.mp (getElem?_of_file hfile)
  simp only [file, setFile, if_neg hneg, Array.getElem?_setIfInBounds, hlt, if_true]

namespace Retouched

variable {R R' : OpenFile → OpenFile → Prop} {handle : Int32}

theorem refl (R : OpenFile → OpenFile → Prop) (handle : Int32) (d : Desk) : Retouched R handle d d :=
  ⟨rfl, rfl, rfl, Or.inl rfl⟩

theorem mono (h : Retouched R handle d d') (hR : ∀ {f f'}, R f f' → R' f f') : Retouched R' handle d d' where
  contents := h.contents
  fonts := h.fonts
  script := h.script
  table := by
    rcases h.table with htable | ⟨f, f', hfile, hf, htable⟩
    · exact Or.inl htable
    · exact Or.inr ⟨f, f', hfile, hR hf, htable⟩

theorem setFile (h : Retouched R handle d d') {f f' : OpenFile} (hfile : d.file handle = .ok f) (hf : R f f') :
    Retouched R handle d (d'.setFile handle f') where
  contents := h.contents
  fonts := h.fonts
  script := h.script
  table := by
    refine Or.inr ⟨f, f', hfile, hf, ?_⟩
    rcases h.table with htable | ⟨g, g', -, -, htable⟩
    · rw [Desk.setFile, htable]
    · rw [Desk.setFile, htable, Array.setIfInBounds_setIfInBounds]

theorem finish (h : Retouched R handle d d') : Retouched R handle d d'.finish :=
  ⟨h.contents, h.fonts, h.script, h.table⟩

theorem print (h : Retouched R handle d d') (data : ByteArray) : Retouched R handle d (d'.print data) :=
  ⟨h.contents, h.fonts, h.script, h.table⟩

/-- Where the file of an entry of the second table comes from. -/
theorem mem_table (h : Retouched R handle d d') {f' : OpenFile} (hmem : f' ∈ d'.table) :
    f' ∈ d.table ∨ ∃ f ∈ d.table, R f f' := by
  rcases h.table with htable | ⟨f, g, hfile, hf, htable⟩
  · exact Or.inl (htable ▸ hmem)
  · rw [htable] at hmem
    rcases Array.mem_or_eq_of_mem_setIfInBounds hmem with hmem | rfl
    · exact Or.inl hmem
    · exact Or.inr ⟨f, Array.mem_of_getElem? (getElem?_of_file hfile), hf⟩

/-- What does not tell a file from what has become of it is the same for both tables. -/
theorem map_table (h : Retouched R handle d d') {α : Type} {p : OpenFile → α}
    (hp : ∀ {f f'}, d.file handle = .ok f → R f f' → p f' = p f) : d'.table.map p = d.table.map p := by
  rcases h.table with htable | ⟨f, f', hfile, hf, htable⟩
  · rw [htable]
  · refine Array.ext_getElem? fun i => ?_
    have hget := getElem?_of_file hfile
    rw [htable, Array.getElem?_map, Array.getElem?_map, Array.getElem?_setIfInBounds]
    by_cases hi : handle.toInt.toNat = i
    · subst hi
      obtain ⟨hlt, -⟩ := Array.getElem?_eq_some_iff.mp hget
      rw [if_pos rfl, if_pos hlt, hget, Option.map_some, Option.map_some, hp hfile hf]
    · rw [if_neg hi]

end Retouched

section Reading
open Operation

variable {d : Desk} {x : Seat} {handle : Int32} {bad : Prop} {R : OpenFile → OpenFile → Prop}

theorem leaves_setCursor {f : OpenFile} (h : Retouched R handle d x.desk) (hfile : d.file handle = .ok f)
    {cursor : Cursor} (hf : R f (f.withCursor cursor)) :
    Leaves bad (Retouched R handle d ·.desk) (setCursor handle f cursor x) := h.setFile hfile hf

theorem leaves_access {α : Type} (h : Retouched R handle d x.desk) (a : Memory.Access α) :
    Leaves bad (Retouched R handle d ·.desk) (access a x) := by
  unfold access
  split <;> exact h

theorem leaves_look {α : Type} (h : Retouched R handle d x.desk) (read : Memory → Except Memory.Fault α) :
    Leaves bad (Retouched R handle d ·.desk) (look read x) := by
  unfold look
  split <;> exact h

/-- A cursor that is advanced has gone `length` bytes on, or there is no such position. -/
theorem leaves_advance {α : Type} {cursor : Cursor} {first : UInt8} {length : Nat} {k : Cursor → Operation α}
    (hbad : wordBound ≤ cursor.position + length → bad)
    (hk : ∀ {cursor'}, cursor'.position = cursor.position + length →
      Leaves bad (Retouched R handle d ·.desk) (k cursor' x)) :
    Leaves bad (Retouched R handle d ·.desk) ((advance cursor first length >>= k) x) := by
  rw [advance]
  by_cases hfits : cursor.position + length < wordBound
  · rw [if_pos hfits]
    exact hk rfl
  · rw [if_neg hfits]
    exact hbad (Nat.le_of_not_lt hfits)

theorem leaves_getKeyboard {content : ByteArray} {cursor : Cursor} (h : Retouched R handle d x.desk)
    (hfile : d.file handle = .ok (.keyboard content cursor)) (offset length : Nat)
    (hR : ∀ {cursor'}, cursor'.position = cursor.position ∨ cursor'.position = cursor.position + length →
      R (.keyboard content cursor) (.keyboard content cursor')) (hbad : wordBound ≤ cursor.position + length → bad) :
    Leaves bad (Retouched R handle d ·.desk) (getKeyboard handle content cursor offset length x) := by
  unfold getKeyboard
  cases byteAt? content cursor.position with
  | some byte =>
    refine (leaves_access h _).bind fun _ x h => leaves_advance hbad fun hposition => ?_
    exact leaves_setCursor h hfile (hR (Or.inr hposition))
  | none =>
    refine (leaves_setCursor h hfile (hR (Or.inl (by rfl)))).bind fun _ x h => ?_
    refine (leaves_access h _).bind fun _ x h => leaves_advance hbad fun hposition => ?_
    exact (leaves_setCursor h hfile (hR (Or.inr hposition))).bind fun _ x h => h.finish

theorem leaves_getRegular {f : RegularFile} (h : Retouched R handle d x.desk)
    (hfile : d.file handle = .ok (.regular f)) (offset length : Nat)
    (hR : ∀ {cursor}, cursor.position = f.cursor.position ∨ cursor.position = f.cursor.position + length →
      R (.regular f) (.regular { f with cursor })) (hbad : wordBound ≤ f.cursor.position + length → bad) :
    Leaves bad (Retouched R handle d ·.desk) (getRegular handle f offset length x) := by
  unfold getRegular
  split
  · exact leaves_setCursor h hfile (hR (Or.inl (by rfl)))
  · refine (leaves_look h _).bind fun _ x h => ?_
    cases byteAt? (f.readAtCursor length) 0 with
    | none => exact (leaves_access h _).bind fun _ x h => leaves_setCursor h hfile (hR (Or.inl (by rfl)))
    | some first =>
      refine (leaves_access h _).bind fun _ x h => leaves_advance hbad fun hposition => ?_
      exact leaves_setCursor h hfile (hR (Or.inr hposition))

/-- A read moves the cursor of its file.  It fails for good only when there is no position
to move it to. -/
theorem leaves_get (d : Desk) (m : Memory) (handle : Int32) (offset length : Nat)
    (hbad : ∀ {f}, d.file handle = .ok f → wordBound ≤ f.position + length → bad) :
    Leaves bad (Retouched (OpenFile.Turned length) handle d ·.desk) (get handle offset length ⟨d, m⟩) := by
  have hrefl := Retouched.refl (OpenFile.Turned length) handle d
  simp only [get, bind, EStateM.bind, Operation.file]
  cases hfile : d.file handle with
  | error e => exact hrefl
  | ok f =>
    cases f with
    | keyboard content cursor =>
      exact leaves_getKeyboard hrefl hfile offset length (fun h => ⟨_, rfl, h⟩) (hbad hfile)
    | screen => exact hrefl
    | regular f => exact leaves_getRegular hrefl hfile offset length (fun h => ⟨_, rfl, h⟩) (hbad hfile)

theorem leaves_lineFrom {f : OpenFile} {cursor : Cursor} (h : Retouched R handle d x.desk)
    (hfile : d.file handle = .ok f) (content : ByteArray) (isTerminal : Bool) (r : LineRequest)
    (hR : ∀ {cursor'}, cursor'.position = cursor.position → R f (f.withCursor cursor'))
    (hbad : ∀ first : UInt32, wordBound ≤ r.buffer + first.toNat → bad) :
    Leaves bad (Retouched R handle d ·.desk) (lineFrom handle f content cursor isTerminal r x) := by
  unfold lineFrom
  generalize (if (r.bypass && !cursor.atEnd && cursor.atLineEnd) = true then 1 else 0) = skip
  refine (leaves_look h _).bind fun first x h => ?_
  refine (leaves_access h _).bind fun _ x h => ?_
  refine (leaves_setCursor h hfile (hR (by rfl))).bind fun _ x h => ?_
  split
  · refine (leaves_setCursor h hfile (hR (by rfl))).bind fun _ x h => ?_
    cases isTerminal with
    | true => exact h.finish
    | false => exact h
  · dsimp only
    split
    · exact h
    · split
      next hbound => exact hbad first hbound
      · refine (leaves_access h _).bind fun _ x h => ?_
        refine (leaves_access h _).bind fun _ x h => ?_
        exact (leaves_setCursor h hfile (hR (by rfl))).bind fun _ x h => h

/-- A line read leaves the position of its file.  It fails for good only when its buffer
reaches beyond all addresses. -/
theorem leaves_inputLine (d : Desk) (m : Memory) (handle : Int32) (r : LineRequest)
    (hbad : ∀ first : UInt32, wordBound ≤ r.buffer + first.toNat → bad) :
    Leaves bad (Retouched (OpenFile.Turned 0) handle d ·.desk) (inputLine handle r ⟨d, m⟩) := by
  have hrefl := Retouched.refl (OpenFile.Turned 0) handle d
  simp only [inputLine, bind, EStateM.bind, Operation.file]
  cases hfile : d.file handle with
  | error e => exact hrefl
  | ok f =>
    cases f with
    | keyboard content cursor =>
      exact leaves_lineFrom hrefl hfile content true r (fun h => ⟨_, rfl, Or.inl h⟩) hbad
    | screen => exact hrefl
    | regular f => exact leaves_lineFrom hrefl hfile f.buffer false r (fun h => ⟨_, rfl, Or.inl h⟩) hbad

end Reading

/-- A write puts the file that it gives in the place of the one written to.  It fails for good
only when it gives none. -/
theorem leaves_write {bad : Prop} {R : OpenFile → OpenFile → Prop} (d : Desk) (handle : Int32) (data : ByteArray)
    (hR : ∀ {f f'}, f.write data = some f' → R (.regular f) (.regular f'))
    (hbad : ∀ {f}, d.file handle = .ok (.regular f) → f.write data = none → bad) :
    Leaves bad (Retouched R handle d) (Act.changing (·.write handle data) d) := by
  have hrefl := Retouched.refl R handle d
  simp only [Act.changing, write]
  by_cases hneg : handle < 0
  · rw [if_pos hneg]
    exact hrefl.print data
  · rw [if_neg hneg]
    cases hfile : d.file handle with
    | error e => exact hrefl
    | ok f =>
      cases f with
      | keyboard content cursor => exact hrefl
      | screen => exact hrefl.print data
      | regular f =>
        cases hwrite : f.write data with
        | none =>
          simp only [hwrite]
          exact hbad hfile hwrite
        | some f' =>
          simp only [hwrite]
          exact hrefl.setFile hfile (hR hwrite)

end Desk

/-! ## What an open puts into the table -/

/-- The file that an open finds under a name, and why it finds that one. -/
inductive Desk.Finds (d : Desk) (name : String) : Mode → RegularFile → Prop where
  | metric {mode data} (h : d.metric name mode = some data) : Finds d name mode (.opened name mode data)
  | stored {mode content} (hmetric : d.metric name mode = none) (h : d.contents[name]? = some content) :
      Finds d name mode (.opened name mode content)
  | fresh : Finds d name .write (.opened name .write .empty)
  | previous {content} (h : d.previous name = some content) : Finds d name .read (.opened name .read content)
  | missing (h : d.previous name = none) : Finds d name .read (.failed name)

/-- An open puts what it finds into the table, or leaves the desk as it is. -/
theorem Desk.finds_of_open (d : Desk) (name : String) (mode : Mode) (resuming : Bool) :
    (∃ f, d.Finds name mode f ∧ d.open name mode resuming = d.push (.regular f)) ∨
      d.open name mode resuming = (.fetch name, d) := by
  rw [Desk.open]
  cases hmetric : d.metric name mode with
  | some data => exact Or.inl ⟨_, .metric hmetric, rfl⟩
  | none =>
    cases hcontent : d.contents[name]? with
    | some content => exact Or.inl ⟨_, .stored hmetric hcontent, rfl⟩
    | none =>
      cases mode with
      | write => exact Or.inl ⟨_, .fresh, rfl⟩
      | read =>
        cases hprevious : d.previous name with
        | some content => exact Or.inl ⟨_, .previous hprevious, rfl⟩
        | none =>
          by_cases hskip : (resuming || FileName.isScratch name) = true
          · simp only [hskip, if_true]
            exact Or.inl ⟨_, .missing hprevious, rfl⟩
          · simp only [hskip]
            exact Or.inr rfl

/-- What a lookup in the table gives, some file in the table gives. -/
theorem Desk.mem_table_of_latest {d : Desk} {α : Type} {pick : RegularFile → Option α} {a : α}
    (h : d.latest pick = some a) : ∃ f, .regular f ∈ d.table ∧ pick f = some a := by
  obtain ⟨f, hmem, hpick⟩ := List.exists_of_findSome?_eq_some h
  cases f with
  | regular f => exact ⟨f, Array.mem_def.mpr (List.mem_reverse.mp hmem), hpick⟩
  | keyboard content cursor => cases hpick
  | screen => cases hpick

/-! ## All acts -/

/-- What an act that the host can go on from does to a desk. -/
inductive Act.Step (d : Desk) : Act → Desk → Prop where
  | stored (name : String) (content : ByteArray) : Step d (.insert name content) (d.insert name content)
  | opened {a name mode resuming} (h : a.Opens name mode resuming) : Step d a (d.open name mode resuming).2
  | terminal {a} {f : OpenFile} (h : f = .keyboard d.script .start ∨ f = .screen) : Step d a (d.push f).2
  | worked {a d'} (handle : Int32) (h : Desk.Retouched (a.Effect handle) handle d d') : Step d a d'

/-- What the host cannot go on from: a read past all positions, and a write that has no place
in the buffer. -/
inductive Act.Fatal (d : Desk) : Act → Prop where
  | get {m handle pointer length f} (hfile : d.file handle = .ok f)
      (h : wordBound ≤ f.position + length.toNat) : Fatal d (.get m handle pointer length)
  | write {a handle data f} (hdata : a.written? = some (handle, data)) (hfile : d.file handle = .ok (.regular f))
      (h : f.write data = none) : Fatal d a

namespace Desk

variable {d d' : Desk} {a : Act}

theorem Leaves.seated {α : Type} {bad : Prop} {Q : Desk → Prop} {m : Memory} {op : Operation α}
    (h : Leaves bad (Q ·.desk) (op ⟨d, m⟩)) : Leaves bad Q (Act.seated m op d) := by
  unfold Act.seated
  generalize op ⟨d, m⟩ = r at h ⊢
  cases r with
  | ok a x => exact h
  | error e x =>
    cases e with
    | error cause => exact h
    | abort => exact h

theorem Leaves.mono {σ α : Type} {bad : Prop} {Q Q' : σ → Prop} {r : EStateM.Result FileFailure σ α}
    (h : Leaves bad Q r) (hQ : ∀ {s}, Q s → Q' s) : Leaves bad Q' r := by
  cases r with
  | ok a s => exact hQ h
  | error e s =>
    cases e with
    | error cause => exact hQ h
    | abort => exact h

/-- Every act makes a step, unless it is fatal. -/
theorem leaves_perform (d : Desk) (a : Act) : Leaves (a.Fatal d) (Act.Step d a) (a.perform d) := by
  -- a question leaves the desk as it is
  have hask {α : Type} (ask : Desk → Except FileError α) :
      Leaves (a.Fatal d) (Act.Step d a) (Act.asking ask d) := by
    unfold Act.asking
    split <;> exact .worked 0 (.refl ..)
  cases a with
  | insert name content => exact .stored name content
  | openFile name mode resuming => exact .opened (Or.inl rfl)
  | openRaw raw mode resuming =>
    change Act.Step d _ (d.openRaw raw mode resuming).2
    unfold openRaw
    cases hparse : FileName.parse raw.data.toList with
    | terminal =>
      cases mode with
      | read => exact .terminal (Or.inl rfl)
      | write => exact .terminal (Or.inr rfl)
    | file name => exact .opened (Or.inr ⟨raw, rfl, hparse⟩)
  | close handle => exact hask (·.close handle)
  | atEnd handle => exact hask (·.atEnd handle)
  | atLineEnd handle => exact hask (·.atLineEnd handle)
  | status handle => exact hask (·.status handle)
  | get m handle pointer length =>
    refine Leaves.seated ((leaves_get d m handle _ _ fun hfile h => .get hfile h).mono fun h => ?_)
    exact .worked handle (h.mono .get)
  | put m handle pointer length =>
    cases hread : m.read pointer.toNat length.toNat with
    | error fault =>
      simp only [Act.perform, Act.changing, put, hread]
      exact .worked handle (.refl ..)
    | ok data =>
      have hdata : (Act.put m handle pointer length).written? = some (handle, data) := by
        simp only [Act.written?, hread]
        rfl
      have hput : (Act.put m handle pointer length).perform d = Act.changing (·.write handle data) d := by
        simp only [Act.perform, Act.changing, put, hread]
      rw [hput]
      exact (leaves_write d handle data (.write hdata) fun hfile h => .write hdata hfile h).mono (.worked handle)
  | write handle data =>
    exact (leaves_write d handle data (.write rfl) fun hfile h => .write rfl hfile h).mono (.worked handle)
  | inputLine m handle bypass buffer first last capacity =>
    refine Leaves.seated ((leaves_inputLine d m handle _ fun index hbound => ?_).mono fun h => ?_)
    · -- two words of 32 bits do not add up to one of more than 64 bits
      have hsum : 2 ^ 64 ≤ buffer.toNat + index.toNat := hbound
      have hbuffer := buffer.toNat_lt
      have hindex := index.toNat_lt
      omega
    · exact .worked handle (h.mono .inputLine)
  | finish => exact .worked 0 (Retouched.refl _ 0 d).finish

theorem step_of_after (h : d.after a = some d') : a.Step d d' := by
  have hleaves := leaves_perform d a
  rw [after] at h
  generalize a.perform d = r at h hleaves
  cases r with
  | ok u s =>
    cases h
    exact hleaves
  | error e s =>
    cases e with
    | error cause =>
      cases h
      exact hleaves
    | abort => cases h

/-- No act changes the fonts. -/
theorem fonts_of_step {a : Act} (hstep : a.Step d d') : d'.fonts = d.fonts := by
  cases hstep with
  | stored name content => rfl
  | @opened a name mode resuming hopens =>
    rcases d.finds_of_open name mode resuming with ⟨f, -, hopen⟩ | hopen
    · rw [hopen]
      rfl
    · rw [hopen]
  | terminal _ => rfl
  | worked handle hworked => exact hworked.fonts

theorem fatal_of_after (h : d.after a = none) : a.Fatal d := by
  have hleaves := leaves_perform d a
  rw [after] at h
  generalize a.perform d = r at h hleaves
  cases r with
  | ok u s => cases h
  | error e s =>
    cases e with
    | error cause => cases h
    | abort => exact hleaves

/-- A write that has no place in the buffer is fatal. -/
theorem after_of_write_eq_none {handle : Int32} {data : ByteArray} {f : RegularFile}
    (hdata : a.written? = some (handle, data)) (hfile : d.file handle = .ok (.regular f)) (h : f.write data = none) :
    d.after a = none := by
  have hwrite : d.write handle data = .error .abort := by
    have hneg : ¬ handle < 0 := by
      intro hneg
      rw [file, if_pos hneg] at hfile
      cases hfile
    simp only [write, if_neg hneg, hfile, h]
  cases a with
  | write handle' data' =>
    cases hdata
    simp only [after, Act.perform, Act.changing, hwrite]
  | put m handle' pointer length =>
    cases hread : m.read pointer.toNat length.toNat with
    | error fault =>
      simp only [Act.written?, hread] at hdata
      cases hdata
    | ok data' =>
      simp only [Act.written?, hread] at hdata
      cases hdata
      simp only [after, Act.perform, Act.changing, put, hread, hwrite]
  | _ => cases hdata

end Desk
end Galley
