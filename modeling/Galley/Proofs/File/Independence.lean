import Galley.Proofs.File.Comparing
import Galley.Proofs.File.Replies
import Galley.Proofs.File.Voice

/-! # Handles are independent

What an act on a handle does depends on nothing but the file behind that handle
(`paired_operate`), and an act that is not on it leaves that file as it is
(`file_of_after`), whether it opens the same name, stores content under it or
finishes the run.  So the replies to the acts on a handle, and what becomes of its
file, are the same when all other acts are left out (`handles_independent`).  A
file keeps its kind, its name, its direction and its status, and handles are given
out one after the other and never again. -/
namespace Galley

/-- What no act changes: the kind of a file, its name, its direction and its status. -/
def OpenFile.identity (f : OpenFile) : String × Option (String × Mode × Bool) × Nat := (f.label, f.tag, f.status)

namespace Desk
open Operation

/-- Two seats with the same memory and the same file behind a handle. -/
structure Seat.Agree (handle : Int32) (x y : Seat) : Prop where
  memory : y.memory = x.memory
  file : y.desk.file handle = x.desk.file handle

variable {α : Type} {handle : Int32} {x y : Seat} {d d' e : Desk} {a : Act} {acts : List Act}

/-! ## An act on the handle -/

theorem file_setFile_eq (d : Desk) (handle : Int32) (f : OpenFile) :
    (d.setFile handle f).file handle = (d.file handle).map fun _ => f := by
  cases hfile : d.file handle with
  | ok g => exact file_setFile hfile f
  | error e =>
    rw [file] at hfile ⊢
    split at hfile
    next hneg => rw [if_pos hneg]; exact hfile
    next hneg =>
      rw [if_neg hneg]
      split at hfile
      · cases hfile
      next hnone =>
        have hsame : (d.setFile handle f).table[handle.toInt.toNat]? = none := by
          rw [Array.getElem?_eq_none_iff] at hnone ⊢
          rwa [setFile, Array.size_setIfInBounds]
        rw [hsame]
        exact hfile

theorem agree_setFile (h : x.Agree handle y) (f : OpenFile) :
    Seat.Agree handle { x with desk := x.desk.setFile handle f } { y with desk := y.desk.setFile handle f } where
  memory := h.memory
  file := by rw [file_setFile_eq, file_setFile_eq, h.file]

/-- The steps of an operation keep two seats in agreement on the file. -/
theorem Seat.congruent_agree (handle : Int32) : Seat.Congruent (Seat.Agree handle) handle fun _ => True where
  size h := by rw [h.memory]
  file h := h.file
  fits_file _ _ := trivial
  setCursor h _ _ := .ok (agree_setFile h _)
  finish h := .ok ⟨h.memory, h.file⟩
  write {x y} h offset data := by
    simp only [access, h.memory]
    cases Memory.write offset data x.memory with
    | ok value m => exact .ok ⟨rfl, h.file⟩
    | error fault m => exact .error ⟨rfl, h.file⟩

theorem agree_write (h : x.Agree handle y) (data : ByteArray) :
    Paired (Seat.Agree handle) (Act.altering (·.write handle data) x) (Act.altering (·.write handle data) y) := by
  have hprint : Seat.Agree handle { x with desk := x.desk.print data } { y with desk := y.desk.print data } :=
    ⟨h.memory, h.file⟩
  by_cases hneg : handle < 0
  · simp only [Act.altering, write, if_pos hneg]
    exact .ok hprint
  · simp only [Act.altering, write, if_neg hneg, h.file]
    cases x.desk.file handle with
    | error e => exact .error h
    | ok f =>
      cases f with
      | keyboard content cursor => exact .error h
      | screen => exact .ok hprint
      | regular f =>
        dsimp only
        cases f.write data with
        | none => exact .error h
        | some f' => exact .ok (agree_setFile h _)

theorem agree_put (h : x.Agree handle y) (pointer length : Nat) :
    Paired (Seat.Agree handle) (Act.altering (·.put x.memory handle pointer length) x)
      (Act.altering (·.put y.memory handle pointer length) y) := by
  simp only [put, h.memory]
  cases x.memory.read pointer length with
  | error fault => exact .error h
  | ok data => exact agree_write h data

theorem agree_telling (h : x.Agree handle y) (answer : α → Act.Answer) (look : OpenFile → α) :
    Paired (Seat.Agree handle) (Act.telling answer (fun d => (d.file handle).map look) x)
      (Act.telling answer (fun d => (d.file handle).map look) y) := by
  simp only [Act.telling, h.file]
  cases x.desk.file handle with
  | error e => exact .error h
  | ok f => exact .ok h

/-- **What an act on a handle does depends on the file behind it only.** -/
theorem paired_operate (h : x.Agree handle y) (hon : a.isOn handle) :
    Paired (Seat.Agree handle) (a.operate x) (a.operate y) := by
  have hhandle : a.handle? = some handle := by simpa [Act.isOn] using hon
  cases a with
  | insert name content => cases hhandle
  | openFile name mode resuming => cases hhandle
  | openRaw raw mode resuming => cases hhandle
  | close handle' => cases hhandle; exact agree_telling h ..
  | atEnd handle' => cases hhandle; exact agree_telling h ..
  | atLineEnd handle' => cases hhandle; exact agree_telling h ..
  | status handle' => cases hhandle; exact agree_telling h ..
  | get m handle' pointer length => cases hhandle; exact ((Seat.congruent_agree handle).get h ..).map _
  | put m handle' pointer length => cases hhandle; exact agree_put h ..
  | write handle' data => cases hhandle; exact agree_write h data
  | inputLine m handle' bypass buffer first last capacity =>
    cases hhandle
    exact ((Seat.congruent_agree handle).inputLine h (by rw [h.memory])).map _
  | finish => cases hhandle

/-- Two desks with the same file behind a handle give the same reply to an act on it; either
the host can go on from neither, or the file is the same again. -/
theorem reply_eq (hfile : e.file handle = d.file handle) (hon : a.isOn handle) :
    a.reply e = a.reply d ∧ ((d.after a = none ∧ e.after a = none) ∨
      ∃ d' e', d.after a = some d' ∧ e.after a = some e' ∧ e'.file handle = d'.file handle) := by
  have hpaired := paired_operate (x := ⟨d, a.memory⟩) (y := ⟨e, a.memory⟩) ⟨rfl, hfile⟩ hon
  rw [after_eq, after_eq, Act.reply, Act.reply]
  generalize a.operate ⟨d, a.memory⟩ = r at hpaired
  generalize a.operate ⟨e, a.memory⟩ = r' at hpaired
  cases hpaired with
  | ok h => exact ⟨congrArg (Act.Reply.mk _) h.memory, Or.inr ⟨_, _, rfl, rfl, h.file⟩⟩
  | @error cause x y h =>
    refine ⟨congrArg (Act.Reply.mk _) h.memory, ?_⟩
    cases cause with
    | error cause => exact Or.inr ⟨_, _, rfl, rfl, h.file⟩
    | abort => exact Or.inl ⟨rfl, rfl⟩

/-! ## An act elsewhere -/

/-- What is behind a handle depends on its place in the table. -/
theorem file_congr (h : 0 ≤ handle.toInt → e.table[handle.toInt.toNat]? = d.table[handle.toInt.toNat]?) :
    e.file handle = d.file handle := by
  rw [file, file]
  split
  · rfl
  next hneg =>
    rw [Int32.lt_iff_toInt_lt, Int32.toInt_zero, Int.not_lt] at hneg
    rw [h hneg]

theorem file_push_of_lt (hlt : handle.toInt < d.table.size) (f : OpenFile) :
    (d.push f).2.file handle = d.file handle := by
  refine file_congr fun hnonneg => ?_
  have hplace : handle.toInt.toNat < d.table.size := by omega
  rw [push, Array.getElem?_push_lt hplace, Array.getElem?_eq_getElem hplace]

theorem file_setFile_of_ne {handle' : Int32} {f : OpenFile} (hfile : d.file handle' = .ok f)
    (hne : handle' ≠ handle) (f' : OpenFile) : (d.setFile handle' f').file handle = d.file handle := by
  refine file_congr fun hnonneg => ?_
  have hplace : handle'.toInt.toNat ≠ handle.toInt.toNat := by
    have := toInt_of_file hfile
    intro heq
    exact hne (Int32.toInt_inj.mp (by omega))
  rw [setFile, Array.getElem?_setIfInBounds_ne hplace]

theorem handle?_of_effect {f f' : OpenFile} (h : a.Effect handle f f') : a.handle? = some handle := by
  cases h with
  | get h => rfl
  | inputLine h => rfl
  | @write _ _ data _ _ hdata h =>
    cases a with
    | write handle' data' =>
      cases hdata
      rfl
    | put m handle' pointer length =>
      obtain ⟨data', -, heq⟩ := Option.map_eq_some_iff.mp hdata
      cases heq
      rfl
    | _ => cases hdata

/-- **An act that is not on a handle leaves the file behind it.** -/
theorem file_of_after (h : d.after a = some d') (hoff : a.isOn handle = false) (hlt : handle.toInt < d.table.size) :
    d'.file handle = d.file handle := by
  cases step_of_after h with
  | stored name content => rfl
  | @opened a name mode resuming hopens =>
    rcases d.finds_of_open name mode resuming with ⟨f, -, hopen⟩ | hopen
    · rw [hopen]
      exact file_push_of_lt hlt _
    · rw [hopen]
  | terminal hf => exact file_push_of_lt hlt _
  | worked handle' hworked =>
    rcases hworked.table with htable | ⟨f, f', hfile, heffect, htable⟩
    · exact file_congr fun _ => by rw [htable]
    · have hne : handle' ≠ handle := by
        rintro rfl
        simp [Act.isOn, handle?_of_effect heffect] at hoff
      rw [← file_setFile_of_ne hfile hne f']
      exact file_congr fun _ => by rw [htable]; rfl

/-! ## What files keep -/

theorem identity_withCursor (f : OpenFile) (cursor : Cursor) : (f.withCursor cursor).identity = f.identity := by
  cases f <;> rfl

theorem identity_of_effect {f f' : OpenFile} (h : a.Effect handle f f') : f'.identity = f.identity := by
  cases h with
  | get h =>
    obtain ⟨cursor, rfl, -⟩ := h
    exact identity_withCursor f cursor
  | inputLine h =>
    obtain ⟨cursor, rfl, -⟩ := h
    exact identity_withCursor f cursor
  | @write _ _ data f f' hdata h =>
    have htag := tag_write h
    simp only [OpenFile.tag, Option.some.injEq, Prod.mk.injEq] at htag
    obtain ⟨hname, hmode, hopen⟩ := htag
    simp only [OpenFile.identity, OpenFile.label, OpenFile.tag, OpenFile.status, hname, hmode, hopen]

/-- The identities of all opened files, by their handles. -/
def identities (d : Desk) : List (String × Option (String × Mode × Bool) × Nat) := d.table.toList.map OpenFile.identity

theorem length_identities (d : Desk) : d.identities.length = d.table.size := by
  rw [identities, List.length_map, Array.length_toList]

theorem identities_push (d : Desk) (f : OpenFile) : d.identities <+: (d.push f).2.identities :=
  ⟨[f.identity], by simp [identities, push]⟩

/-- **An act keeps the identities of all files**, and adds one at most. -/
theorem identities_of_after (h : d.after a = some d') : d.identities <+: d'.identities := by
  cases step_of_after h with
  | stored name content => exact List.prefix_refl _
  | @opened a name mode resuming hopens =>
    rcases d.finds_of_open name mode resuming with ⟨f, -, hopen⟩ | hopen
    · rw [hopen]
      exact identities_push d _
    · simp only [hopen, List.prefix_rfl]
  | terminal hf => exact identities_push d _
  | worked handle' hworked =>
    have hsame := hworked.map_table (p := OpenFile.identity) fun _ heffect => identity_of_effect heffect
    simp only [identities, ← Array.toList_map, hsame, List.prefix_rfl]

theorem identities_of_run (h : d.run acts = some d') : d.identities <+: d'.identities := by
  induction acts generalizing d with
  | nil =>
    cases h
    exact List.prefix_refl _
  | cons a acts ih =>
    rw [run_cons] at h
    obtain ⟨e, hafter, hrun⟩ := Option.bind_eq_some_iff.mp h
    exact (identities_of_after hafter).trans (ih hrun)

theorem size_of_after (h : d.after a = some d') : d.table.size ≤ d'.table.size := by
  rw [← length_identities, ← length_identities]
  exact (identities_of_after h).length_le

/-! ## Handles that are given -/

theorem opened_of_open {n : Nat} {name : String} {mode : Mode} {resuming : Bool}
    (h : (d.open name mode resuming).1 = .opened n) :
    n = d.table.size ∧ (d.open name mode resuming).2.table.size = n + 1 := by
  rcases d.finds_of_open name mode resuming with ⟨f, -, hopen⟩ | hopen
  · rw [hopen] at h ⊢
    cases h
    exact ⟨rfl, Array.size_push _⟩
  · rw [hopen] at h
    cases h

theorem opened_of_openRaw {n : Nat} {raw : ByteArray} {mode : Mode} {resuming : Bool}
    (h : (d.openRaw raw mode resuming).1 = .opened n) :
    n = d.table.size ∧ (d.openRaw raw mode resuming).2.table.size = n + 1 := by
  unfold openRaw at h ⊢
  cases hparse : FileName.parse raw.data.toList with
  | terminal =>
    rw [hparse] at h
    cases mode with
    | read | write =>
      cases h
      exact ⟨rfl, Array.size_push _⟩
  | file name =>
    rw [hparse] at h
    exact opened_of_open h

theorem answer_of_map {f : α → Act.Answer} {op : Operation α} {answer : Act.Answer} (h : (f <$> op) x = .ok answer y) :
    ∃ v, answer = f v := by
  change EStateM.map f op x = _ at h
  rw [EStateM.map] at h
  split at h
  · cases h
    exact ⟨_, rfl⟩
  · cases h

theorem answer_of_telling {f : α → Act.Answer} {ask : Desk → Except FileError α} {answer : Act.Answer}
    (h : Act.telling f ask x = .ok answer y) : ∃ v, answer = f v := by
  rw [Act.telling] at h
  split at h
  · cases h
    exact ⟨_, rfl⟩
  · cases h

theorem answer_of_altering {change : Desk → Except FileFailure Desk} {answer : Act.Answer}
    (h : Act.altering change x = .ok answer y) : answer = .done := by
  rw [Act.altering] at h
  split at h
  · cases h
    rfl
  · cases h

/-- Only an open gives a handle: the next place in the table. -/
theorem opened_of_operate {n : Nat} (h : a.operate x = .ok (.outcome (.opened n)) y) :
    n = x.desk.table.size ∧ y.desk.table.size = n + 1 := by
  cases a with
  | openFile name mode resuming =>
    obtain ⟨houtcome, rfl⟩ := EStateM.Result.ok.inj h
    exact opened_of_open (Act.Answer.outcome.inj houtcome)
  | openRaw raw mode resuming =>
    obtain ⟨houtcome, rfl⟩ := EStateM.Result.ok.inj h
    exact opened_of_openRaw (Act.Answer.outcome.inj houtcome)
  | insert name content =>
    rw [Act.operate] at h
    cases answer_of_altering h
  | finish =>
    rw [Act.operate] at h
    cases answer_of_altering h
  | write handle data =>
    rw [Act.operate] at h
    cases answer_of_altering h
  | put m handle pointer length =>
    rw [Act.operate] at h
    cases answer_of_altering h
  | close handle | atEnd handle | atLineEnd handle | status handle =>
    rw [Act.operate] at h
    obtain ⟨v, hv⟩ := answer_of_telling h
    cases hv
  | get m handle pointer length =>
    obtain ⟨v, hv⟩ := answer_of_map h
    cases hv
  | inputLine m handle bypass buffer first last capacity =>
    obtain ⟨v, hv⟩ := answer_of_map h
    cases hv

theorem opened_of_reply {n : Nat} (h : (a.reply d).opened? = some n) :
    n = d.table.size ∧ ∃ d', d.after a = some d' ∧ d'.table.size = n + 1 := by
  rw [after_eq]
  rw [Act.reply] at h
  cases hoperate : a.operate ⟨d, a.memory⟩ with
  | error e x =>
    rw [hoperate] at h
    cases h
  | ok answer x =>
    have hanswer : answer = .outcome (.opened n) := by
      simp only [hoperate, Act.Reply.opened?] at h
      split at h
      next heq =>
        cases heq
        cases h
        rfl
      next => cases h
    subst hanswer
    obtain ⟨hn, hsize⟩ := opened_of_operate hoperate
    exact ⟨hn, x.desk, rfl, hsize⟩

/-- The handles that the replies to acts give, in order. -/
def handles (d : Desk) (acts : List Act) : List Nat := (d.trace acts).filterMap fun event => event.2.opened?

/-- **Handles are given out in order and never again**, the first one beyond all files that
are there. -/
theorem handles_increase (d : Desk) (acts : List Act) :
    (d.handles acts).Pairwise (· < ·) ∧ ∀ n ∈ d.handles acts, d.table.size ≤ n := by
  induction acts generalizing d with
  | nil => exact ⟨.nil, nofun⟩
  | cons a acts ih =>
    have hlater {d' : Desk} (hafter : d.after a = some d') :
        d.handles (a :: acts) = (a.reply d).opened?.toList ++ d'.handles acts := by
      rw [handles, trace_of_after hafter, List.filterMap_cons]
      cases (a.reply d).opened? <;> rfl
    cases hafter : d.after a with
    | none =>
      have hnone : d.handles (a :: acts) = [] := by
        rw [handles, trace_of_abort hafter, List.filterMap_cons]
        cases hopened : (a.reply d).opened? with
        | none => rfl
        | some n =>
          obtain ⟨-, d', hsome, -⟩ := opened_of_reply hopened
          cases hafter.symm.trans hsome
      rw [hnone]
      exact ⟨.nil, nofun⟩
    | some d' =>
      obtain ⟨hpairwise, hle⟩ := ih d'
      have hsize := size_of_after hafter
      rw [hlater hafter]
      cases hopened : (a.reply d).opened? with
      | none => exact ⟨hpairwise, fun n hn => Nat.le_trans hsize (hle n hn)⟩
      | some n =>
        obtain ⟨hn, d'', hsome, hnext⟩ := opened_of_reply hopened
        cases hafter.symm.trans hsome
        refine ⟨List.pairwise_cons.mpr ⟨fun m hm => ?_, hpairwise⟩, fun m hm => ?_⟩
        · have := hle m hm
          omega
        · rcases List.mem_cons.mp hm with rfl | hm
          · exact Nat.le_of_eq hn.symm
          · exact Nat.le_trans hsize (hle m hm)

/-! ## Independence -/

/-- Those of some acts that are on a handle. -/
def actsOn (handle : Int32) (acts : List Act) : List Act := acts.filter (Act.isOn handle)

/-- Those of the events of a trace whose acts are on a handle. -/
def eventsOn (handle : Int32) (events : List (Act × Act.Reply)) : List (Act × Act.Reply) :=
  events.filter fun event => event.1.isOn handle

theorem eventsOn_cons_of_isOn (hon : a.isOn handle) (r : Act.Reply) (events : List (Act × Act.Reply)) :
    eventsOn handle ((a, r) :: events) = (a, r) :: eventsOn handle events :=
  List.filter_cons_of_pos hon

theorem eventsOn_cons_of_not_isOn (hoff : ¬ a.isOn handle) (r : Act.Reply) (events : List (Act × Act.Reply)) :
    eventsOn handle ((a, r) :: events) = eventsOn handle events :=
  List.filter_cons_of_neg hoff

/-- The acts on a handle among others, and the same acts alone, at two desks that have the same
file behind it. -/
theorem trace_actsOn (hfile : e.file handle = d.file handle) (hlt : handle.toInt < d.table.size) (acts : List Act) :
    eventsOn handle (d.trace acts) <+: e.trace (actsOn handle acts) ∧
      ∀ d', d.run acts = some d' → ∃ e', e.run (actsOn handle acts) = some e' ∧
        e.trace (actsOn handle acts) = eventsOn handle (d.trace acts) ∧ e'.file handle = d'.file handle := by
  induction acts generalizing d e with
  | nil =>
    refine ⟨List.prefix_refl _, fun d' hrun => ?_⟩
    cases hrun
    exact ⟨e, rfl, rfl, hfile⟩
  | cons a acts ih =>
    by_cases hon : a.isOn handle
    · have hacts : actsOn handle (a :: acts) = a :: actsOn handle acts := List.filter_cons_of_pos hon
      obtain ⟨hreply, ⟨hd, he⟩ | ⟨d', e', hd, he, hfile'⟩⟩ := reply_eq hfile hon
      · rw [hacts, trace_of_abort hd, trace_of_abort he, hreply, eventsOn_cons_of_isOn hon, run_cons, hd]
        exact ⟨List.prefix_refl _, nofun⟩
      · have hlt' : handle.toInt < d'.table.size := by
          have := size_of_after hd
          omega
        obtain ⟨hfront, hends⟩ := ih hfile' hlt'
        rw [hacts, trace_of_after hd, trace_of_after he, hreply, eventsOn_cons_of_isOn hon, run_of_after hd,
          run_of_after he]
        refine ⟨List.cons_prefix_cons.mpr ⟨rfl, hfront⟩, fun d'' hrun => ?_⟩
        obtain ⟨e'', hrun', htrace, hfile''⟩ := hends d'' hrun
        exact ⟨e'', hrun', by rw [htrace], hfile''⟩
    · have hacts : actsOn handle (a :: acts) = actsOn handle acts := List.filter_cons_of_neg hon
      cases hd : d.after a with
      | none =>
        rw [hacts, trace_of_abort hd, eventsOn_cons_of_not_isOn hon, run_cons, hd]
        exact ⟨List.nil_prefix, nofun⟩
      | some d' =>
        have hkept := file_of_after hd (Bool.eq_false_iff.mpr hon) hlt
        have hlt' : handle.toInt < d'.table.size := by
          have := size_of_after hd
          omega
        rw [hacts, trace_of_after hd, eventsOn_cons_of_not_isOn hon, run_of_after hd]
        exact ih (hfile.trans hkept.symm) hlt'

/-- **Handles are independent.**  At any desk, and for any handle that has been given there,
the acts on it are replied to as if all other acts had been left out: those on other handles,
opens of whatever name, stored files and what is printed.  The replies are the same as far as
the host can go on, and if that is to the end then the file behind the handle is the same as
well.  Handles are given out in order and never again, and no act changes the kind, the name,
the direction or the status of a file that is there. -/
theorem handles_independent (d : Desk) {handle : Int32} (hgiven : handle.toInt < d.table.size) (acts : List Act) :
    eventsOn handle (d.trace acts) <+: d.trace (actsOn handle acts) ∧
      (∀ d', d.run acts = some d' → ∃ e, d.run (actsOn handle acts) = some e ∧
        d.trace (actsOn handle acts) = eventsOn handle (d.trace acts) ∧ e.file handle = d'.file handle ∧
        d.identities <+: d'.identities) ∧
      (d.handles acts).Pairwise (· < ·) ∧ ∀ n ∈ d.handles acts, d.table.size ≤ n := by
  obtain ⟨hfront, hends⟩ := trace_actsOn (Eq.refl (d.file handle)) hgiven acts
  refine ⟨hfront, fun d' hrun => ?_, handles_increase d acts⟩
  obtain ⟨e, hown, htrace, hfile⟩ := hends d' hrun
  exact ⟨e, hown, htrace, hfile, identities_of_run hrun⟩

/-- A file that is read after its name was stored anew, opened again and written to. -/
theorem handles_independent_same_name :
    let d : Desk := ((Desk.start .empty .empty).push (.regular (.opened "a" .read [0x78, 0x79].toByteArray))).2
    let get : Act := .get ⟨[0].toByteArray⟩ 0 0 1
    let acts : List Act :=
      [.insert "a" .empty, .openFile "a" .write false, .write 1 [0x7A].toByteArray, get, .finish, .atEnd 0]
    (0 : Int32).toInt < d.table.size ∧ actsOn 0 acts = [get, .atEnd 0] ∧
      (get.reply d).memory = ⟨[0x78].toByteArray⟩ ∧
      eventsOn 0 (d.trace acts) <+: d.trace [get, .atEnd 0] ∧
      (d.handles acts).Pairwise (· < ·) ∧ ∀ n ∈ d.handles acts, 1 ≤ n := by
  intro d get acts
  have hgiven : (0 : Int32).toInt < d.table.size := by decide
  obtain ⟨hfront, -, hhandles⟩ := handles_independent d hgiven acts
  exact ⟨hgiven, rfl, rfl, hfront, hhandles⟩

end Desk
end Galley
