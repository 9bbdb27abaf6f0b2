import Galley.Proofs.File.LineReading
import Galley.Proofs.File.Streaming

/-! # What the end of a file means

A file has one flag for its end and two readers that can set it, one of bytes and one of lines,
each with a position of its own.  So a file that says it is at its end is at the end of one of
them (`EndFound`).  As long as no read of a line has found the end, the next read of bytes
delivers nothing of the file; else no read of a line will deliver one (`atEnd_sound`).  That is
all there is to say, since the reader of lines can be at the end of a file of which no byte was
read (`atEnd_before_bytes`).

A read of no bytes at all sets the flag of a file, wherever its reader is, but not that of the
terminal.  Where bytes were left, the flag then says nothing of them: the next read delivers
them (`atEnd_after_empty_read`). -/
namespace Galley

/-- A file with this content that has just been opened for reading, or could not be. -/
inductive OpenFile.Unread : ByteArray → OpenFile → Prop where
  | typed (script : ByteArray) : Unread script (.keyboard script .start)
  | opened (name : String) (content : ByteArray) : Unread content (.regular (.opened name .read content))
  | missing (name : String) : Unread .empty (.regular (.failed name))

/-- What a read of `length` bytes makes of the memory where nothing of the file is left: a carriage
return is delivered at the terminal and a zero elsewhere, if there is room and the file could
be opened. -/
def OpenFile.endRead (f : OpenFile) (m : Memory) (pointer length : Nat) : Memory :=
  match f with
  | .keyboard .. => if pointer < m.size then m.patch pointer (oneByte 0x0D) else m
  | .screen => m
  | .regular f => if f.isOpen && decide (pointer + length ≤ m.size) then m.patch pointer (oneByte 0) else m

namespace Desk

theorem unread_of_open {d : Desk} {handle : Int32} {name : String} {resuming : Bool} {n : Nat}
    (h : (d.open name .read resuming).1 = .opened n) (hhandle : handle.toInt = n) :
    ∃ content f, OpenFile.Unread content f ∧ (d.open name .read resuming).2.file handle = .ok f := by
  rcases d.finds_of_open name .read resuming with ⟨f, hfinds, hopen⟩ | hopen
  · rw [hopen] at h ⊢
    cases h
    have hfile := file_push hhandle (.regular f)
    cases hfinds with
    | metric _ | stored _ _ | previous _ => exact ⟨_, _, .opened .., hfile⟩
    | missing _ => exact ⟨_, _, .missing name, hfile⟩
  · rw [hopen] at h
    cases h

/-- **Whatever is opened for reading has not been read.** -/
theorem unread_of_openRaw {d : Desk} {handle : Int32} {raw : ByteArray} {resuming : Bool} {n : Nat}
    (h : (d.openRaw raw .read resuming).1 = .opened n) (hhandle : handle.toInt = n) :
    ∃ content f, OpenFile.Unread content f ∧ (d.openRaw raw .read resuming).2.file handle = .ok f := by
  unfold openRaw at h ⊢
  cases hparse : FileName.parse raw.data.toList with
  | terminal =>
    rw [hparse] at h
    cases h
    exact ⟨_, _, .typed d.script, file_push hhandle _⟩
  | file name =>
    rw [hparse] at h
    exact unread_of_open h hhandle

/-- A read of at least one byte delivers nothing of the file. -/
def ReadsEnd (d : Desk) (handle : Int32) (f : OpenFile) : Prop :=
  ∀ (m : Memory) (pointer length : UInt32), 0 < length.toNat →
    ((Act.get m handle pointer length).reply d).memory = f.endRead m pointer.toNat length.toNat

/-- No read of a line delivers one. -/
def ReadsNoLine (d : Desk) (handle : Int32) : Prop :=
  ∀ (m : Memory) (bypass : Bool) (buffer first last capacity : UInt32),
    ((Act.inputLine m handle bypass buffer first last capacity).reply d).result ≠ .ok (.flag true)

/-- An act with its reply is a read of a line that has found the end. -/
inductive FindsNoLine (handle : Int32) : Act × Act.Reply → Prop where
  | inputLine {m : Memory} {bypass : Bool} {buffer first last capacity : UInt32} {left : Memory} :
      FindsNoLine handle (.inputLine m handle bypass buffer first last capacity, ⟨.ok (.flag false), left⟩)

/-! ## The two readers -/

/-- If the flag is set, the reader of bytes is at the end, or the reader of lines is and has told. -/
def EndFound (told : Prop) (content : ByteArray) (cursor : Cursor) : Prop :=
  cursor.atEnd = true → content.size ≤ cursor.position ∨ (told ∧ content.size ≤ cursor.linePosition)

variable {content : ByteArray} {cursor cursor' : Cursor} {told told' : Prop} {f g : OpenFile} {m : Memory}
  {pointer length : Nat}

/-- Readers that go on keep what was found, and what is found anew has to be found by one of them. -/
theorem EndFound.mono (h : EndFound told content cursor) (htold : told → told')
    (hposition : cursor.position ≤ cursor'.position) (hline : cursor.linePosition ≤ cursor'.linePosition)
    (hend : cursor'.atEnd = true → cursor.atEnd = true ∨ content.size ≤ cursor'.position ∨
      (told' ∧ content.size ≤ cursor'.linePosition)) : EndFound told' content cursor' := by
  intro hset
  rcases hend hset with hbefore | hfound
  · rcases h hbefore with hbytes | ⟨ht, hlines⟩
    · exact Or.inl (Nat.le_trans hbytes hposition)
    · exact Or.inr ⟨htold ht, Nat.le_trans hlines hline⟩
  · exact hfound

theorem source?_of_unread (h : f.Unread content) : ∃ cursor, f.source? = some (content, cursor) := by
  cases h with
  | typed => exact ⟨_, rfl⟩
  | opened name => exact ⟨_, rfl⟩
  | missing name => exact ⟨_, rfl⟩

/-- A read of bytes sets the flag where its reader is at the end, if it asks for any while some
are left. -/
theorem reader_of_readEnds {o : Outcome Unit} (hunread : f.Unread content)
    (hlength : f.isKeyboard ∨ 0 < length ∨ content.size ≤ cursor.position)
    (ho : ReadEnds m pointer length (f.withCursor cursor) o) :
    ∃ cursor', o.file = f.withCursor cursor' ∧ cursor.position ≤ cursor'.position ∧
      cursor'.linePosition = cursor.linePosition ∧
      (cursor'.atEnd = true → cursor.atEnd = true ∨ content.size ≤ cursor'.position) := by
  cases hunread with
  | typed =>
    have hset : (cursor.typed content).atEnd = true → cursor.atEnd = true ∨ content.size ≤ cursor.position := by
      intro hset
      simpa [Cursor.typed] using hset
    cases ho with
    | typed _ _ =>
      refine ⟨_, rfl, Nat.le_add_right .., rfl, fun hend => ?_⟩
      exact (hset hend).imp_right fun hle => Nat.le_trans hle (Nat.le_add_right ..)
    | typedOutside _ => exact ⟨_, rfl, Nat.le_refl _, rfl, hset⟩
    | typedBeyond _ _ => exact ⟨_, rfl, Nat.le_refl _, rfl, hset⟩
  | opened name =>
    have hsome : 0 < length ∨ content.size ≤ cursor.position := hlength.resolve_left Bool.false_ne_true
    cases ho with
    | missing h => cases h
    | outside _ _ => exact ⟨_, rfl, Nat.le_refl _, rfl, Or.inl⟩
    | nothing _ _ hnothing _ =>
      have hnothing : length = 0 ∨ content.size ≤ cursor.position := hnothing
      exact ⟨_, rfl, Nat.le_refl _, rfl, fun _ => Or.inr (by change content.size ≤ cursor.position; omega)⟩
    | unmarked _ _ _ => exact ⟨_, rfl, Nat.le_refl _, rfl, Or.inl⟩
    | bytes _ _ _ _ _ => exact ⟨_, rfl, Nat.le_add_right .., rfl, Or.inl⟩
    | beyond _ _ _ _ _ => exact ⟨_, rfl, Nat.le_refl _, rfl, Or.inl⟩
  | missing name =>
    cases ho with
    | missing _ => exact ⟨_, rfl, Nat.le_refl _, rfl, fun _ => Or.inr (Nat.zero_le _)⟩
    | outside h | nothing h | unmarked h | bytes h | beyond h => cases h

/-- A read of a line sets the flag where its reader is at the end, and tells so. -/
theorem reader_of_lineEnds {o : Outcome Bool} {r : LineRequest}
    (ho : LineEnds m r (f.withCursor cursor) content (cursor.skipped r.bypass) o) :
    ∃ cursor', o.file = f.withCursor cursor' ∧ cursor'.position = cursor.position ∧
      cursor.linePosition ≤ cursor'.linePosition ∧
      (cursor'.atEnd = true → cursor.atEnd = true ∨ (o.result = .ok false ∧ content.size ≤ cursor'.linePosition)) := by
  have hskip : cursor.linePosition ≤ (cursor.skipped r.bypass).linePosition := Nat.le_add_right ..
  cases ho with
  | unreadable _ => exact ⟨_, rfl, rfl, Nat.le_refl _, Or.inl⟩
  | unwritable _ _ => exact ⟨_, rfl, rfl, Nat.le_refl _, Or.inl⟩
  | ended _ _ hend => exact ⟨_, withCursor_withCursor .., rfl, hskip, fun _ => Or.inr ⟨rfl, hend⟩⟩
  | overflow _ _ _ _ => exact ⟨_, withCursor_withCursor .., rfl, hskip, Or.inl⟩
  | beyond _ _ _ _ _ => exact ⟨_, withCursor_withCursor .., rfl, hskip, Or.inl⟩
  | outside _ _ _ _ _ => exact ⟨_, withCursor_withCursor .., rfl, hskip, Or.inl⟩
  | delivered _ _ _ _ _ _ =>
    exact ⟨_, withCursor_withCursor .., rfl, Nat.le_trans hskip (Nat.le_add_right ..), Or.inl⟩

/-! ## What the flag foretells -/

/-- Nothing of a file is delivered where the reader of bytes is at its end. -/
theorem memory_of_readEnds {o : Outcome Unit} (hunread : f.Unread content) (hlength : 0 < length)
    (hend : content.size ≤ cursor.position) (ho : ReadEnds m pointer length (f.withCursor cursor) o) :
    o.memory = f.endRead m pointer length := by
  cases hunread with
  | typed =>
    have htyped : typedAt content cursor.position = 0x0D := by
      rw [typedAt, byteAt?_eq_none_iff.mpr hend, Option.getD_none]
    cases ho with
    | typed hroom _ => rw [OpenFile.endRead, if_pos hroom, htyped]
    | typedOutside hroom => exact (if_neg (Nat.not_lt.mpr hroom)).symm
    | typedBeyond hroom _ => rw [OpenFile.endRead, if_pos hroom, htyped]
  | opened name =>
    have hnone := byteAt?_eq_none_iff.mpr hend
    cases ho with
    | missing h => cases h
    | outside _ hroom => exact (if_neg (by simpa using fun _ => hroom)).symm
    | nothing _ hroom _ _ => exact (if_pos (by simpa using ⟨rfl, hroom⟩)).symm
    | unmarked _ hnothing _ => omega
    | bytes _ _ _ hfirst _ => cases hnone.symm.trans hfirst
    | beyond _ _ _ hfirst _ => cases hnone.symm.trans hfirst
  | missing name =>
    cases ho with
    | missing _ => rfl
    | outside h | nothing h | unmarked h | bytes h | beyond h => cases h

variable {d d' e : Desk} {handle : Int32} {a : Act} {acts : List Act}

theorem readsEnd_of_le (hfile : d.file handle = .ok (f.withCursor cursor)) (hunread : f.Unread content)
    (hend : content.size ≤ cursor.position) : d.ReadsEnd handle f := by
  intro m pointer length hlength
  obtain ⟨o, hends, hcomes⟩ := comesTo_get hfile m pointer length
  rw [hcomes.reply]
  exact memory_of_readEnds hunread hlength hend hends

/-- No line is delivered where the reader of lines is at its end. -/
theorem readsNoLine_of_le {cursor' : Cursor} (hfile : d.file handle = .ok (f.withCursor cursor))
    (hsource : f.source? = some (content, cursor')) (hend : content.size ≤ cursor.linePosition) :
    d.ReadsNoLine handle := by
  intro m bypass buffer first last capacity hreply
  obtain ⟨o, hends, hcomes⟩ :=
    comesTo_inputLine hfile (source?_withCursor hsource cursor) m bypass buffer first last capacity
  rw [hcomes.reply] at hreply
  have hskip : content.size ≤ (cursor.skipped bypass).linePosition := Nat.le_trans hend (Nat.le_add_right ..)
  cases hends with
  | delivered _ _ hmore => omega
  | _ => cases hreply

/-! ## A whole run -/

/-- The act reads no bytes of a file of which some are left to read. -/
def ReadsNone (d : Desk) (handle : Int32) (a : Act) : Prop :=
  ∃ m pointer f content cursor, a = .get m handle pointer 0 ∧ d.file handle = .ok f ∧ f.isKeyboard = false ∧
    f.source? = some (content, cursor) ∧ cursor.position < content.size

/-- What the acts on a handle leave of the file: neither reader goes back, and the flag is set
where one of them is at the end. -/
def EndKept (handle : Int32) (f : OpenFile) (content : ByteArray) (events : List (Act × Act.Reply))
    (g : OpenFile) : Prop :=
  ∃ cursor, g = f.withCursor cursor ∧ EndFound (∃ event ∈ events, FindsNoLine handle event) content cursor

theorem EndKept.start (handle : Int32) (h : f.Unread content) : EndKept handle f content [] f := by
  cases h with
  | typed => exact ⟨.start, rfl, nofun⟩
  | opened name => exact ⟨.start, rfl, nofun⟩
  | missing name => exact ⟨(RegularFile.failed name).cursor, rfl, fun _ => Or.inl (Nat.zero_le _)⟩

theorem EndKept.step {events : List (Act × Act.Reply)} (h : EndKept handle f content events g)
    (hunread : f.Unread content) (hfile : d.file handle = .ok g) (hafter : d.after a = some d')
    (hwritten : ∀ data, a.written? ≠ some (handle, data)) (hnone : ¬ d.ReadsNone handle a) :
    ∃ g', d'.file handle = .ok g' ∧ EndKept handle f content (events ++ [(a, a.reply d)]) g' := by
  obtain ⟨cursor, hcursor, hfound⟩ := h
  have htold : (∃ event ∈ events, FindsNoLine handle event) →
      ∃ event ∈ events ++ [(a, a.reply d)], FindsNoLine handle event :=
    fun ⟨event, hevent, hfinds⟩ => ⟨event, List.mem_append_left _ hevent, hfinds⟩
  rcases file_cases_of_after hfile hafter with hsame | ⟨g', hleft, heffect⟩
  · exact ⟨_, hsame, cursor, hcursor, hfound.mono htold (Nat.le_refl _) (Nat.le_refl _) Or.inl⟩
  · -- nothing is written, so what is left is what the two readers do
    cases heffect with
    | @get m _ pointer length _ _ _ =>
      subst hcursor
      obtain ⟨cursor₀, hsource⟩ := source?_of_unread hunread
      have hlength : f.isKeyboard ∨ 0 < length.toNat ∨ content.size ≤ cursor.position := by
        by_contra hnot
        simp only [not_or, Bool.not_eq_true, Nat.not_lt, Nat.not_le] at hnot
        obtain ⟨hkeyboard, hzero, hleft⟩ := hnot
        obtain rfl : length = 0 := UInt32.toNat_inj.mp (Nat.le_zero.mp hzero)
        exact hnone ⟨m, pointer, _, content, cursor, rfl, hfile, (isKeyboard_withCursor f cursor).trans hkeyboard,
          source?_withCursor hsource cursor, hleft⟩
      obtain ⟨o, hends, hcomes⟩ := comesTo_get hfile m pointer length
      obtain ⟨cursor', hfile', hposition, hline, hend⟩ := reader_of_readEnds hunread hlength hends
      cases hcomes.eq_of_after hafter
      refine ⟨o.file, file_desk hfile o, cursor', hfile', hfound.mono htold hposition (Nat.le_of_eq hline.symm) ?_⟩
      exact fun hset => (hend hset).imp_right Or.inl
    | @inputLine m _ bypass buffer first last capacity _ _ _ =>
      subst hcursor
      obtain ⟨cursor₀, hsource⟩ := source?_of_unread hunread
      obtain ⟨o, hends, hcomes⟩ :=
        comesTo_inputLine hfile (source?_withCursor hsource cursor) m bypass buffer first last capacity
      obtain ⟨cursor', hfile', hposition, hline, hend⟩ := reader_of_lineEnds hends
      cases hcomes.eq_of_after hafter
      refine ⟨o.file, file_desk hfile o, cursor', hfile', hfound.mono htold (Nat.le_of_eq hposition.symm) hline ?_⟩
      intro hset
      refine (hend hset).imp_right fun ⟨hresult, hle⟩ => Or.inr ⟨⟨_, List.mem_concat_self, ?_⟩, hle⟩
      rw [hcomes.reply, hresult]
      exact .inputLine
    | write hdata _ => exact absurd hdata (hwritten _)

theorem endKept_of_run (hfile : d.file handle = .ok f) (hunread : f.Unread content) (hrun : d.run acts = some e)
    (hwritten : ∀ a ∈ acts, ∀ data, a.written? ≠ some (handle, data))
    (hnone : ∀ {before a later d'}, acts = before ++ a :: later → d.run before = some d' → ¬ d'.ReadsNone handle a) :
    ∃ g, e.file handle = .ok g ∧ EndKept handle f content (d.trace acts) g := by
  refine run_induction (P := fun acts e => (∀ a ∈ acts, ∀ data, a.written? ≠ some (handle, data)) →
    (∀ {before a later d'}, acts = before ++ a :: later → d.run before = some d' → ¬ d'.ReadsNone handle a) →
    ∃ g, e.file handle = .ok g ∧ EndKept handle f content (d.trace acts) g) ?_ ?_ hrun hwritten hnone
  · exact fun _ _ => ⟨f, hfile, .start handle hunread⟩
  · intro acts d' a e hacts ih hafter hwritten hnone
    obtain ⟨g, hg, hkept⟩ := ih (fun b hb => hwritten b (List.mem_append_left _ hb))
      fun hsplit => hnone (by rw [hsplit, List.append_assoc, List.cons_append])
    rw [trace_concat hacts]
    exact hkept.step hunread hg hafter (hwritten a List.mem_concat_self) (hnone rfl hacts)

/-- **The end of a file is the end of one of its readers.**  If a file that was opened for reading
and never written to says that it is at its end, then a read of at least one byte delivers
nothing of it; unless a read of a line on the same handle has found the end, and then no read
of a line will deliver one.  All that is left out is a file, other than the terminal, of which a
read has asked for no bytes while some were left. -/
theorem atEnd_sound (hfile : d.file handle = .ok f) (hunread : f.Unread content) (hrun : d.run acts = some e)
    (hwritten : ∀ a ∈ acts, ∀ data, a.written? ≠ some (handle, data))
    (hnone : ∀ {before a later d'}, acts = before ++ a :: later → d.run before = some d' → ¬ d'.ReadsNone handle a)
    (hend : e.atEnd handle = .ok true) :
    e.ReadsEnd handle f ∨ ((∃ event ∈ d.trace acts, FindsNoLine handle event) ∧ e.ReadsNoLine handle) := by
  obtain ⟨g, hg, cursor, rfl, hfound⟩ := endKept_of_run hfile hunread hrun hwritten hnone
  obtain ⟨cursor₀, hsource⟩ := source?_of_unread hunread
  have hset : cursor.atEnd = true := by
    rw [Desk.atEnd, hg, Except.map, atEnd_withCursor (source?_withCursor hsource cursor)] at hend
    exact Except.ok.inj hend
  rcases hfound hset with hbytes | ⟨hfinds, hlines⟩
  · exact Or.inl (readsEnd_of_le hg hunread hbytes)
  · exact Or.inr ⟨hfinds, readsNoLine_of_le hg hsource hlines⟩

/-- The end is told of three bytes of which eight and then one were asked for. -/
theorem atEnd_sound_past_end :
    ∃ e, threeBytes.run [.get (.zeroed 16) 0 0 8, .get (.zeroed 16) 0 0 1] = some e ∧ e.atEnd 0 = .ok true ∧
      e.ReadsEnd 0 (.regular (.opened "a.tex" .read "ab\n".toUTF8)) := by
  let content := "ab\n".toUTF8
  let eight := Act.get (.zeroed 16) 0 0 8
  let one := Act.get (.zeroed 16) 0 0 1
  have hfile : threeBytes.file 0 = .ok (.regular (.opened "a.tex" .read content)) := file_push rfl _
  have hsize : content.size ≤ RegularFile.maxCapacity := by decide
  have hstart : StreamedBy content [] (.regular (.opened "a.tex" .read content)) := ⟨_, rfl, .opened ..⟩
  obtain ⟨d, f, hafter, hf, hstream, -⟩ :=
    hstart.exists_after hsize hfile (readsInBounds_zeroed (by decide) (by decide) : eight.ReadsInBounds 0)
  obtain ⟨e, g, hafter', hg, -, hend⟩ :=
    hstream.exists_after hsize hf (readsInBounds_zeroed (by decide) (by decide) : one.ReadsInBounds 0)
  have hrun : threeBytes.run [eight, one] = some e := by
    rw [run_of_after hafter, run_of_after hafter']
    rfl
  have hset : e.atEnd 0 = .ok true := by
    rw [Desk.atEnd, hg, Except.map, hend]
    rfl
  have hread {a : Act} (ha : a ∈ [eight, one]) :
      ∃ length, 0 < UInt32.toNat length ∧ a = .get (.zeroed 16) 0 0 length := by
    rcases List.mem_cons.mp ha with rfl | ha
    · exact ⟨8, by decide, rfl⟩
    · exact ⟨1, by decide, List.mem_singleton.mp ha⟩
  have hwritten : ∀ a ∈ [eight, one], ∀ data, a.written? ≠ some (0, data) := by
    intro a ha data
    obtain ⟨length, -, rfl⟩ := hread ha
    exact (Option.some_ne_none _).symm
  have hnone {before : List Act} {a : Act} {later : List Act} {d' : Desk} (hacts : [eight, one] = before ++ a :: later)
      (_ : threeBytes.run before = some d') : ¬ d'.ReadsNone 0 a := by
    rintro ⟨m, pointer, f, content, cursor, rfl, -⟩
    have hmem : Act.get m 0 pointer 0 ∈ [eight, one] := by
      rw [hacts]
      exact List.mem_append_right before List.mem_cons_self
    obtain ⟨length, hlength, heq⟩ := hread hmem
    cases heq
    exact absurd hlength (by decide)
  refine ⟨e, hrun, hset, ?_⟩
  have hsound := atEnd_sound hfile (.opened "a.tex" content) hrun hwritten hnone hset
  rcases hsound with hends | ⟨⟨event, hevent, hfinds⟩, -⟩
  · exact hends
  · have hmem : event.1 ∈ [eight, one] := map_fst_trace hrun ▸ List.mem_map_of_mem hevent
    obtain ⟨length, -, heq⟩ := hread hmem
    cases hfinds
    cases heq

/-! ## Flags that are set before the end -/

/-- Where bytes are left, a read delivers them, whatever the flag says. -/
theorem memory_of_bytes_left {f : RegularFile} (hfile : d.file handle = .ok (.regular f)) (hopen : f.isOpen = true)
    (hleft : f.cursor.position < f.buffer.size) {pointer length : UInt32} (hlength : 0 < length.toNat)
    (hroom : pointer.toNat + length.toNat ≤ m.size) :
    ((Act.get m handle pointer length).reply d).memory =
      m.patch pointer.toNat (slice f.buffer f.cursor.position length.toNat) := by
  obtain ⟨o, hends, hcomes⟩ := comesTo_get hfile m pointer length
  rw [hcomes.reply]
  cases hends with
  | missing h => cases hopen.symm.trans h
  | outside | nothing | unmarked => omega
  | bytes | beyond => rfl

/-- **A read of no bytes sets the flag of a file**, and what was left of it is still to read. -/
theorem bytes_left_of_empty_read {f : RegularFile} (hfile : d.file handle = .ok (.regular f)) (hopen : f.isOpen = true)
    (hleft : f.cursor.position < f.buffer.size) {pointer : UInt32} (hmark : pointer.toNat < m.size) :
    ∃ e, d.after (.get m handle pointer 0) = some e ∧ e.atEnd handle = .ok true ∧
      ∀ (m' : Memory) (pointer' length : UInt32), 0 < length.toNat → pointer'.toNat + length.toNat ≤ m'.size →
        ((Act.get m' handle pointer' length).reply e).memory =
          m'.patch pointer'.toNat (slice f.buffer f.cursor.position length.toNat) := by
  have hzero : (0 : UInt32).toNat = 0 := rfl
  obtain ⟨o, hends, hcomes⟩ := comesTo_get hfile m pointer 0
  have hafter := hcomes.after
  have hset := file_desk hfile o
  rw [hzero] at hends
  cases hends with
  | missing h => cases hopen.symm.trans h
  | outside | unmarked | bytes | beyond => omega
  | nothing =>
    refine ⟨_, hafter, ?_, fun m' pointer' length hlength hroom => ?_⟩
    · rw [Desk.atEnd, hset]
      rfl
    · exact memory_of_bytes_left hset hopen hleft hlength hroom

/-- A file of three bytes tells its end after none of them was asked for, and delivers them. -/
theorem atEnd_after_empty_read :
    threeBytes.ReadsNone 0 (.get lineBuffer 0 0 0) ∧
      ∃ e, threeBytes.run [.get lineBuffer 0 0 0] = some e ∧ e.atEnd 0 = .ok true ∧
        ((Act.get lineBuffer 0 0 3).reply e).memory.read 0 3 = .ok "ab\n".toUTF8 := by
  let f : RegularFile := .opened "a.tex" .read "ab\n".toUTF8
  have hfile : threeBytes.file 0 = .ok (.regular f) := file_push rfl _
  have hmark : (0 : UInt32).toNat < lineBuffer.size := by decide
  have hroom : (0 : UInt32).toNat + (3 : UInt32).toNat ≤ lineBuffer.size := by decide
  have hleft : f.cursor.position < f.buffer.size := by decide
  obtain ⟨e, hafter, hend, hdelivers⟩ := bytes_left_of_empty_read hfile rfl hleft hmark
  refine ⟨⟨_, _, _, _, _, rfl, hfile, rfl, rfl, hleft⟩, e, ?_, hend, ?_⟩
  · rw [run_of_after hafter]
    rfl
  · rw [hdelivers _ 0 3 (by decide) hroom]
    have hread : (lineBuffer.patch 0 (slice f.buffer 0 3)).read 0 3 = .ok (slice f.buffer 0 3) :=
      Memory.read_patch (by decide)
    exact hread

/-- **The reader of lines finds the end of a file of which no byte was read**, and the reader of
bytes has all of it before it. -/
theorem bytes_left_of_linesRead {name : String} {done : List Act}
    (h : LinesReadOf (.regular (.opened name .read content)) content done g) (hfile : d.file handle = .ok g)
    (hread : (linesIn content).length < done.length) (hcontent : 0 < content.size) {pointer length : UInt32}
    (hlength : 0 < length.toNat) (hroom : pointer.toNat + length.toNat ≤ m.size) :
    d.atEnd handle = .ok true ∧
      ((Act.get m handle pointer length).reply d).memory = m.patch pointer.toNat (slice content 0 length.toNat) := by
  obtain ⟨cursor, rfl, hlines⟩ := h
  have hset : cursor.atEnd = true := hlines.atEnd.trans (decide_eq_true hread)
  have hposition : cursor.position = 0 := hlines.position
  refine ⟨?_, ?_⟩
  · rw [Desk.atEnd, hfile]
    exact congrArg Except.ok hset
  · rw [← hposition]
    exact memory_of_bytes_left hfile rfl (hposition ▸ hcontent) hlength hroom

/-- A file of one line is read line by line, until it tells its end. -/
def readLines : List Act :=
  [.insert "a.tex" "x".toUTF8, .openFile "a.tex" .read false, .inputLine lineBuffer 0 false 16 0 4 8,
    .inputLine lineBuffer 0 true 16 0 4 8]

/-- Where the lines of a file have been read, its end is told and a read of bytes delivers it. -/
theorem atEnd_before_bytes :
    ∃ e, (Desk.start .empty fun _ => none).run readLines = some e ∧
      (∀ a ∈ readLines, a.written? = none) ∧ e.atEnd 0 = .ok true ∧
      ((Act.get lineBuffer 0 16 1).reply e).memory.read 16 1 = .ok "x".toUTF8 := by
  let content := "x".toUTF8
  let first := Act.inputLine lineBuffer 0 false 16 0 4 8
  let second := Act.inputLine lineBuffer 0 true 16 0 4 8
  let f : RegularFile := .opened "a.tex" .read content
  let d := (Desk.start .empty fun _ => none).insert "a.tex" content
  have hinsert : (Desk.start .empty fun _ => none).after (.insert "a.tex" content) = some d := rfl
  have hopen : d.after (.openFile "a.tex" .read false) = some (d.push (.regular f)).2 := by
    have hstored : d.contents["a.tex"]? = some content := Std.HashMap.getElem?_insert_self
    have hmetric : d.metric "a.tex" .read = none := rfl
    have hpush : d.open "a.tex" .read false = d.push (.regular f) := by
      rw [Desk.open, hmetric, hstored]
    exact congrArg (fun result => some (Prod.snd result)) hpush
  have hfile : (d.push (.regular f)).2.file 0 = .ok (.regular f) := file_push rfl _
  have hreads := readsLine_lineBuffer (by decide : ∀ line ∈ linesIn content, line.length ≤ 8)
  have hstart : LinesReadOf (.regular f) content [] (.regular f) := ⟨.start, rfl, .start content⟩
  obtain ⟨d₁, g₁, hafter₁, hg₁, hlines₁⟩ := hstart.exists_after rfl hfile (hreads false) (absurd rfl)
  obtain ⟨d₂, g₂, hafter₂, hg₂, hlines₂⟩ := hlines₁.exists_after rfl hg₁ (hreads true) fun _ => rfl
  have hrun : (Desk.start .empty fun _ => none).run readLines = some d₂ := by
    rw [readLines, run_of_after hinsert, run_of_after hopen, run_of_after hafter₁, run_of_after hafter₂]
    rfl
  have hlength : 0 < (1 : UInt32).toNat := by decide
  have hroom : (16 : UInt32).toNat + (1 : UInt32).toNat ≤ lineBuffer.size := by decide
  obtain ⟨hend, hmemory⟩ := bytes_left_of_linesRead hlines₂ hg₂ (by decide) (by decide) hlength hroom
  refine ⟨d₂, hrun, ?_, hend, ?_⟩
  · decide
  · rw [hmemory]
    have hread : (lineBuffer.patch 16 (slice content 0 1)).read 16 1 = .ok (slice content 0 1) :=
      Memory.read_patch (by decide)
    exact hread

end Desk
end Galley
