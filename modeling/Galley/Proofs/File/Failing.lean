import Galley.Proofs.File.LineReading

/-! # What a failed act leaves

An act that fails leaves the files as they were, with two exceptions.  A read at the terminal
marks the end of the script before it delivers the carriage return, and the mark stays when
there is no place for it.  A read of a line skips the line feed of the last line before it
looks whether its own line fits, and what is skipped stays skipped when it does not.  Nothing
else is left of a failure (`failure_leaves`).

Only the second exception shows when the act is repeated: a read of the same line, with room
for it, skips once more, and what it skips then is the first byte of the line
(`failed_read_skips`). -/
namespace Galley

/-- A read of a line that bypasses skips at this cursor: the flag of a line's end is set, and the end of
the file is not told. -/
def Cursor.Behind (cursor : Cursor) : Prop := cursor.atEnd = false ∧ cursor.atLineEnd = true

/-- What is left of an act that fails at a seat, if anything is. -/
inductive Act.Blemish (x : Desk.Seat) : Act → Desk → Prop where
  | endTold {m handle pointer length script cursor} (hfile : x.desk.file handle = .ok (.keyboard script cursor))
      (hend : script.size ≤ cursor.position) (huntold : cursor.atEnd = false) :
      Blemish x (.get m handle pointer length) (x.desk.setFile handle (.keyboard script { cursor with atEnd := true }))
  | feedSkipped {m handle buffer first last capacity f content cursor start}
      (hfile : x.desk.file handle = .ok f) (hsource : f.source? = some (content, cursor))
      (hbehind : cursor.Behind) (hfirst : x.memory.readWord first.toNat = .ok start)
      (hlast : last.toNat + 4 ≤ x.memory.size) :
      Blemish x (.inputLine m handle true buffer first last capacity)
        (x.desk.setFile handle (f.withCursor { cursor with linePosition := cursor.linePosition + 1 }))

/-- The second act is the first once more, perhaps with other addresses. -/
inductive Act.Repeated : Act → Act → Prop where
  | same (a : Act) : Repeated a a
  | get {m m' handle pointer pointer' length length'} :
      Repeated (.get m handle pointer length) (.get m' handle pointer' length')
  | put {m m' handle pointer pointer' length length'} :
      Repeated (.put m handle pointer length) (.put m' handle pointer' length')
  | inputLine {m m' handle bypass buffer buffer' first first' last last' capacity capacity'} :
      Repeated (.inputLine m handle bypass buffer first last capacity)
        (.inputLine m' handle bypass buffer' first' last' capacity')

namespace Desk
open Operation

variable {α β : Type} {d : Desk} {m : Memory} {handle : Int32} {f : OpenFile} {pointer length : Nat} {r : LineRequest}
  {x y : Seat} {cause : FileError} {a : Act}

/-! ## Operations that fail -/

theorem eq_of_telling {answer : α → Act.Answer} {ask : Desk → Except FileError α} {e : FileFailure}
    (h : Act.telling answer ask x = .error e y) : y = x := by
  rw [Act.telling] at h
  split at h
  · cases h
  · cases h
    rfl

theorem eq_of_altering {change : Desk → Except FileFailure Desk} {e : FileFailure}
    (h : Act.altering change x = .error e y) : y = x := by
  rw [Act.altering] at h
  split at h
  · cases h
  · cases h
    rfl

/-- The outcome behind an error. -/
theorem eq_of_toResult {o : Outcome α} {e : FileFailure} (h : o.toResult handle d = .error e y) :
    o.result = .error e ∧ y.desk = o.desk handle d := by
  rw [Outcome.toResult] at h
  split at h
  · cases h
  next hresult =>
    cases h
    exact ⟨hresult, rfl⟩

/-! ## Reads that fail -/

section Cursors
variable {script content : ByteArray} {cursor : Cursor}

theorem typed_cases (script : ByteArray) (cursor : Cursor) :
    cursor.typed script = cursor ∨
      script.size ≤ cursor.position ∧ cursor.atEnd = false ∧ cursor.typed script = { cursor with atEnd := true } := by
  rcases Nat.lt_or_ge cursor.position script.size with h | h
  · exact Or.inl (typed_of_lt h)
  · rw [typed_of_le h]
    cases hend : cursor.atEnd with
    | true => exact Or.inl (by rw [← hend])
    | false => exact Or.inr ⟨h, rfl, rfl⟩

theorem skipped_of_behind (h : cursor.Behind) :
    cursor.skipped true = { cursor with linePosition := cursor.linePosition + 1 } := by
  rw [Cursor.skipped, h.1, h.2]
  rfl

theorem skipped_cases (cursor : Cursor) (bypass : Bool) :
    cursor.skipped bypass = cursor ∨ bypass = true ∧ cursor.Behind := by
  by_cases hskips : (bypass && !cursor.atEnd && cursor.atLineEnd) = true
  · simp only [Bool.and_eq_true, Bool.not_eq_true'] at hskips
    exact Or.inr ⟨hskips.1.1, hskips.1.2, hskips.2⟩
  · rw [Cursor.skipped, if_neg hskips]
    exact Or.inl rfl

end Cursors

/-- The file that a failed read of bytes leaves. -/
theorem file_of_readEnds {o : Outcome Unit} (ho : ReadEnds m pointer length f o)
    (herror : o.result = .error (.error cause)) :
    o.finishes = false ∧
      (o.file = f ∨
        ∃ script cursor, f = .keyboard script cursor ∧ o.file = .keyboard script (cursor.typed script)) := by
  cases ho with
  | screen | outside _ _ | unmarked _ _ _ => exact ⟨rfl, Or.inl rfl⟩
  | typedOutside _ => exact ⟨rfl, Or.inr ⟨_, _, rfl, rfl⟩⟩
  | missing _ | nothing _ _ _ _ | bytes _ _ _ _ _ | typed _ _ | beyond _ _ _ _ _ | typedBeyond _ _ => cases herror

/-- The file that a failed read of a line leaves: once the two words have been found it has skipped. -/
theorem file_of_lineEnds {content : ByteArray} {cursor : Cursor} {o : Outcome Bool}
    (ho : LineEnds m r f content cursor o) (herror : o.result = .error (.error cause)) :
    o.finishes = false ∧
      (o.file = f ∧ ¬ (r.last + 4 ≤ m.size ∧ ∃ first, m.readWord r.first = .ok first) ∨
        o.file = f.withCursor cursor ∧ r.last + 4 ≤ m.size ∧ ∃ first, m.readWord r.first = .ok first) := by
  cases ho with
  | unreadable hroom =>
    exact ⟨rfl, Or.inl ⟨rfl, fun ⟨_, first, hfirst⟩ => absurd (room_of_readWord hfirst) (Nat.not_le.mpr hroom)⟩⟩
  | unwritable _ hroom => exact ⟨rfl, Or.inl ⟨rfl, fun ⟨hlast, _⟩ => absurd hlast (Nat.not_le.mpr hroom)⟩⟩
  | overflow hfirst hlast _ _ | outside hfirst hlast _ _ _ => exact ⟨rfl, Or.inr ⟨rfl, hlast, _, hfirst⟩⟩
  | ended _ _ _ | beyond _ _ _ _ _ | delivered _ _ _ _ _ _ => cases herror

theorem desk_of_not_finishes {o : Outcome α} (h : o.finishes = false) : o.desk handle d = d.setFile handle o.file := by
  rw [Outcome.desk, h]
  rfl

/-- A read of bytes that fails leaves nothing, or its blemish. -/
theorem left_of_get {m' : Memory} {pointer length : UInt32}
    (h : get handle pointer.toNat length.toNat x = .error (.error cause) y) :
    y.desk = x.desk ∨ (Act.get m' handle pointer length).Blemish x y.desk := by
  rcases get_cases x handle pointer.toNat length.toNat with ⟨e, hop⟩ | ⟨f, o, hfile, hends, hop⟩
  · cases hop.symm.trans h
    exact Or.inl rfl
  · obtain ⟨herror, hdesk⟩ := eq_of_toResult (hop.symm.trans h)
    obtain ⟨hfinishes, hleft⟩ := file_of_readEnds hends herror
    rw [hdesk, desk_of_not_finishes hfinishes]
    rcases hleft with hleft | ⟨script, cursor, rfl, hleft⟩
    · rw [hleft]
      exact Or.inl (setFile_self hfile)
    · rw [hleft]
      rcases typed_cases script cursor with hsame | ⟨hend, huntold, htyped⟩
      · rw [hsame]
        exact Or.inl (setFile_self hfile)
      · rw [htyped]
        exact Or.inr (.endTold hfile hend huntold)

/-- A read of a line that fails leaves nothing, or its blemish. -/
theorem left_of_inputLine {m' : Memory} {bypass : Bool} {buffer first last capacity : UInt32}
    (h : inputLine handle ⟨bypass, buffer.toNat, first.toNat, last.toNat, capacity.toNat⟩ x =
      .error (.error cause) y) :
    y.desk = x.desk ∨ (Act.inputLine m' handle bypass buffer first last capacity).Blemish x y.desk := by
  rcases inputLine_cases x handle ⟨bypass, buffer.toNat, first.toNat, last.toNat, capacity.toNat⟩ with
    ⟨e, hop⟩ | ⟨f, content, cursor, o, hfile, hsource, hends, hop⟩
  · cases hop.symm.trans h
    exact Or.inl rfl
  · obtain ⟨herror, hdesk⟩ := eq_of_toResult (hop.symm.trans h)
    obtain ⟨hfinishes, hleft⟩ := file_of_lineEnds hends herror
    rw [hdesk, desk_of_not_finishes hfinishes]
    rcases hleft with ⟨hleft, -⟩ | ⟨hleft, hlast, start, hfirst⟩
    · rw [hleft]
      exact Or.inl (setFile_self hfile)
    · rw [hleft]
      rcases skipped_cases cursor bypass with hsame | ⟨rfl, hbehind⟩
      · dsimp only
        rw [hsame, withCursor_self hsource]
        exact Or.inl (setFile_self hfile)
      · dsimp only
        rw [skipped_of_behind hbehind]
        exact Or.inr (.feedSkipped hfile hsource hbehind hfirst hlast)

/-! ## All acts -/

/-- An act that fails leaves nothing, or its blemish. -/
theorem left_of_error (h : a.operate x = .error (.error cause) y) : y.desk = x.desk ∨ a.Blemish x y.desk := by
  have hkept (hsame : y = x) : y.desk = x.desk ∨ a.Blemish x y.desk := Or.inl (congrArg Seat.desk hsame)
  cases a with
  | insert name content => cases h
  | openFile name mode resuming => cases h
  | openRaw raw mode resuming => cases h
  | close handle | atEnd handle | atLineEnd handle | status handle =>
    rw [Act.operate] at h
    exact hkept (eq_of_telling h)
  | get m handle pointer length => exact left_of_get (map_eq_error h)
  | put m handle pointer length | write handle data =>
    rw [Act.operate] at h
    exact hkept (eq_of_altering h)
  | inputLine m handle bypass buffer first last capacity => exact left_of_inputLine (map_eq_error h)
  | finish => cases h

/-- Where an act that fails can leave a blemish, it does. -/
theorem eq_of_blemish (hblemish : a.Blemish x d) (h : a.operate x = .error (.error cause) y) : y.desk = d := by
  cases hblemish with
  | @endTold m handle pointer length script cursor hfile hend huntold =>
    obtain ⟨o, hends, hop⟩ := readEnds_of_get hfile x.memory pointer.toNat length.toNat
    obtain ⟨herror, hdesk⟩ := eq_of_toResult (hop.symm.trans (map_eq_error h))
    cases hends with
    | typedOutside _ => rw [hdesk, desk_of_not_finishes rfl, typed_of_le hend]
    | typed _ _ | typedBeyond _ _ => cases herror
  | @feedSkipped m handle buffer first last capacity f content cursor start hfile hsource hbehind hfirst hlast =>
    obtain ⟨o, hends, hop⟩ := lineEnds_of_inputLine hfile hsource x.memory
      ⟨true, buffer.toNat, first.toNat, last.toNat, capacity.toNat⟩
    obtain ⟨herror, hdesk⟩ := eq_of_toResult (hop.symm.trans (map_eq_error h))
    obtain ⟨hfinishes, ⟨-, hunfound⟩ | ⟨hleft, -⟩⟩ := file_of_lineEnds hends herror
    · exact absurd ⟨hlast, start, hfirst⟩ hunfound
    · rw [hdesk, desk_of_not_finishes hfinishes, hleft]
      dsimp only
      rw [skipped_of_behind hbehind]

/-- A blemish shows in the file. -/
theorem ne_of_blemish (hblemish : a.Blemish x d) : d ≠ x.desk := by
  intro hsame
  cases hblemish with
  | @endTold m handle pointer length script cursor hfile hend huntold =>
    have hleft := file_setFile hfile (.keyboard script { cursor with atEnd := true })
    rw [hsame, hfile] at hleft
    have hcursor := (OpenFile.keyboard.inj (Except.ok.inj hleft)).2
    exact absurd (huntold.symm.trans (congrArg Cursor.atEnd hcursor)) nofun
  | @feedSkipped m handle buffer first last capacity f content cursor start hfile hsource hbehind hfirst hlast =>
    let skipped : Cursor := { cursor with linePosition := cursor.linePosition + 1 }
    have hleft := file_setFile hfile (f.withCursor skipped)
    rw [hsame, hfile] at hleft
    have hsource' := source?_withCursor hsource skipped
    rw [← Except.ok.inj hleft, hsource] at hsource'
    have hcursor := (Prod.mk.inj (Option.some.inj hsource')).2
    exact absurd (congrArg Cursor.linePosition hcursor) (Nat.ne_of_lt (Nat.lt_succ_self _))

/-- A read at the end of the script marks the end, whether it was marked before or not. -/
theorem get_of_endTold {script : ByteArray} {cursor : Cursor} (hfile : d.file handle = .ok (.keyboard script cursor))
    (hend : script.size ≤ cursor.position) (m : Memory) (pointer length : Nat) :
    get handle pointer length ⟨d.setFile handle (.keyboard script { cursor with atEnd := true }), m⟩ =
      get handle pointer length ⟨d, m⟩ := by
  let ended : Cursor := { cursor with atEnd := true }
  let marked := d.setFile handle (.keyboard script ended)
  have hnone : byteAt? script cursor.position = none := byteAt?_eq_none_iff.mpr hend
  have hlook : Operation.file handle ⟨d, m⟩ = .ok (.keyboard script cursor) ⟨d, m⟩ := by
    rw [Operation.file, hfile]
  have hlook' : Operation.file handle ⟨marked, m⟩ = .ok (.keyboard script ended) ⟨marked, m⟩ := by
    rw [Operation.file, file_setFile hfile]
  have hmove : setCursor handle (.keyboard script cursor) ended ⟨d, m⟩ = .ok () ⟨marked, m⟩ := rfl
  have hmove' : setCursor handle (.keyboard script ended) ended ⟨marked, m⟩ = .ok () ⟨marked, m⟩ :=
    congrArg (fun desk => EStateM.Result.ok () (Seat.mk desk m)) (setFile_setFile d handle _ _)
  rw [get, bind_of_ok hlook, bind_of_ok hlook']
  dsimp only
  rw [getKeyboard, getKeyboard, hnone]
  dsimp only
  rw [bind_of_ok hmove', bind_of_ok hmove]
  rfl

theorem operate_of_blemish {b : Act} (hblemish : a.Blemish x d) (hline : a.line? = none) (hrepeated : a.Repeated b)
    (m : Memory) : b.operate ⟨d, m⟩ = b.operate ⟨x.desk, m⟩ := by
  cases hblemish with
  | @endTold m' handle pointer length script cursor hfile hend huntold =>
    let marked := x.desk.setFile handle (.keyboard script { cursor with atEnd := true })
    have hget (pointer length : UInt32) : (Act.get m' handle pointer length).operate ⟨marked, m⟩ =
        (Act.get m' handle pointer length).operate ⟨x.desk, m⟩ := by
      have hsame := get_of_endTold hfile hend m pointer.toNat length.toNat
      change EStateM.map _ _ _ = EStateM.map _ _ _
      rw [EStateM.map, EStateM.map, hsame]
    cases hrepeated with
    | same => exact hget pointer length
    | get => exact hget _ _
  | feedSkipped => cases hline

/-- **What a failed act leaves.**  An act that fails leaves the desk as it was, or its blemish: the
mark at the end of a script, or a line feed that was skipped.  It leaves the blemish wherever
there is one to leave.  If that is no line feed, then the act does the same when it is repeated,
over whatever memory and with whatever addresses, as if it had not failed before. -/
theorem failure_leaves (h : a.operate x = .error (.error cause) y) :
    (y.desk = x.desk ∨ a.Blemish x y.desk) ∧ (y.desk = x.desk ↔ ∀ d, ¬ a.Blemish x d) ∧
      ((∀ d, a.Blemish x d → a.line? = none) →
        ∀ b, a.Repeated b → ∀ m, b.operate ⟨y.desk, m⟩ = b.operate ⟨x.desk, m⟩) := by
  have hleft := left_of_error h
  have hkept (hnone : ∀ d, ¬ a.Blemish x d) : y.desk = x.desk := hleft.resolve_right (hnone _)
  refine ⟨hleft, ⟨fun hsame d hblemish => ?_, hkept⟩, fun hnoLine b hrepeated m => ?_⟩
  · exact ne_of_blemish hblemish ((eq_of_blemish hblemish h).symm.trans hsame)
  · rcases hleft with hsame | hblemish
    · rw [hsame]
    · exact operate_of_blemish hblemish (hnoLine _ hblemish) hrepeated m

/-- A read at the end of an empty script has no place for the carriage return: the mark stays, and
every read at the terminal does what it would have done without it. -/
theorem failure_leaves_endTold :
    let d := ((Desk.start .empty fun _ => none).push (.keyboard .empty .start)).2
    let nowhere : Memory := ⟨.empty⟩
    let a := Act.get nowhere 0 0 1
    ∃ y, a.operate ⟨d, nowhere⟩ = .error (.error (.memory (nowhere.fault 0 1))) y ∧ y.desk ≠ d ∧
      ∀ m pointer length, (Act.get m 0 pointer length).operate ⟨y.desk, m⟩ =
        (Act.get m 0 pointer length).operate ⟨d, m⟩ := by
  intro d nowhere a
  have hfile : d.file 0 = .ok (.keyboard .empty .start) := file_push rfl _
  have hblemish : a.Blemish ⟨d, nowhere⟩ _ := .endTold hfile (Nat.zero_le 0) rfl
  have hfails : a.operate ⟨d, nowhere⟩ = .error (.error (.memory (nowhere.fault 0 1)))
      ⟨d.setFile 0 (.keyboard .empty { Cursor.start with atEnd := true }), nowhere⟩ := rfl
  obtain ⟨-, hsame, hrepeat⟩ := failure_leaves hfails
  refine ⟨_, hfails, fun hkept => hsame.mp hkept _ hblemish, fun m pointer length => ?_⟩
  exact hrepeat (fun _ _ => rfl) _ .get m

/-- **A line that did not fit is lost a byte of.**  The second line of a file is asked for with
room for one byte and then with room for eight, and its first byte is skipped. -/
theorem failed_read_skips :
    let short := Act.inputLine lineBuffer 0 true 16 0 4 1
    let again := Act.inputLine lineBuffer 0 true 16 0 4 8
    ∃ d e, (Desk.start .empty fun _ => none).run
        [.insert "a.tex" "a\nbc".toUTF8, .openFile "a.tex" .read false, .inputLine lineBuffer 0 false 16 0 4 8] =
          some d ∧
      d.after short = some e ∧ (short.reply d).result = .error (.error (.lineOverflow 2 1)) ∧
      again.reply d = ⟨.ok (.flag true), lineShown "bc".toUTF8⟩ ∧
      again.reply e = ⟨.ok (.flag true), lineShown "c".toUTF8⟩ := by
  intro short again
  let content := "a\nbc".toUTF8
  have hzero : lineBuffer.readWord 0 = .ok 0 := by decide
  have hline₀ : lineAt content 0 = "a".toUTF8 := lineAt_eq (by decide)
  obtain ⟨d, hafter, hfile, -⟩ := shows_line false (file_opened content) rfl (by decide) hline₀ (by decide)
  have hline₂ : lineAt content 2 = "bc".toUTF8 := lineAt_eq (by decide)
  obtain ⟨-, -, -, hagain⟩ := shows_line true hfile rfl (by decide) hline₂ (by decide)
  obtain ⟨o, hends, hcomes⟩ := comesTo_inputLine hfile rfl lineBuffer true 16 0 4 1
  have ho := hends.eq_overflow hzero (by decide) (by decide) hline₂ (by decide)
  have hoverflow : o.result = .error (.error (.lineOverflow 2 1)) := congrArg Outcome.result ho
  have hskipped : o.file = (OpenFile.regular (.opened "a.tex" .read content)).withCursor
      { position := 0, linePosition := 2, atEnd := false, atLineEnd := true } := congrArg Outcome.file ho
  have hfile' := file_desk hfile o
  rw [hskipped] at hfile'
  have hline₃ : lineAt content 3 = "c".toUTF8 := lineAt_eq (by decide)
  obtain ⟨-, -, -, hagain'⟩ := shows_line true hfile' rfl (by decide) hline₃ (by decide)
  refine ⟨d, _, ?_, hcomes.after_eq_of_error hoverflow, ?_, hagain, hagain'⟩
  · rw [run_opened, run_of_after hafter]
    rfl
  · rw [hcomes.reply, hoverflow]
    rfl

end Desk
end Galley
