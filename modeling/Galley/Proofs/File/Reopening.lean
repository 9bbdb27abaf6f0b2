import Galley.Proofs.File.Acts
import Galley.Proofs.File.Writing

/-! # Reopening what was written

The host reads back what was written under a name through the last handle that was opened
for writing it; the guest that opens the name for reading gets what the last handle of
either direction shows.  The two come apart when the name is stored, or is a font metric the
source has, for these come first (`reopening_stored_shows_stored`), and when the last handle
is a reading one and the content of an older one has changed since, for a reader keeps the
content it was opened with (`reopening_outOfDate_shows_reader`).  In every other case they
agree, over all runs (`Desk.opened_eq_readBack`). -/
namespace Galley

/-! ## What a table shows of a name -/

namespace RegularFile

/-- What an open file of that name shows: its bytes so far, or the content it was opened with. -/
def shown (name : String) (f : RegularFile) : Option ByteArray :=
  if f.name == name && f.isOpen then
    some (match f.mode with
      | .write => f.written
      | .read => f.buffer)
  else none

/-- What was written through an open file of that name. -/
def left (name : String) (f : RegularFile) : Option ByteArray :=
  if f.name == name && f.mode == .write && f.isOpen then some f.written else none

/-- The direction of an open file of that name. -/
def direction (name : String) (f : RegularFile) : Option Mode :=
  if f.name == name && f.isOpen then some f.mode else none

variable {name : String} {f : RegularFile}

theorem shown_of_other (h : ¬ (f.name = name ∧ f.isOpen = true)) : f.shown name = none := by
  simpa [shown] using h

theorem left_of_other (h : ¬ (f.name = name ∧ f.isOpen = true)) : f.left name = none := by
  have hwrite (hname : f.name = name) (_ : f.mode = .write) : f.isOpen = false := by
    simpa [hname] using h
  simpa [left] using hwrite

theorem direction_of_other (h : ¬ (f.name = name ∧ f.isOpen = true)) : f.direction name = none := by
  simpa [direction] using h

theorem shown_of_write (h : f.name = name ∧ f.isOpen = true) (hmode : f.mode = .write) :
    f.shown name = some f.written := by
  simp [shown, h, hmode]

theorem shown_of_read (h : f.name = name ∧ f.isOpen = true) (hmode : f.mode = .read) :
    f.shown name = some f.buffer := by
  simp [shown, h, hmode]

theorem left_of_write (h : f.name = name ∧ f.isOpen = true) (hmode : f.mode = .write) :
    f.left name = some f.written := by
  simp [left, h, hmode]

theorem left_of_read (hmode : f.mode = .read) : f.left name = none := by
  simp [left, hmode]

theorem Holds.shown {content : ByteArray} (h : f.Holds name content) : f.shown name = some content := by
  rw [shown_of_write ⟨h.name, h.isOpen⟩ h.mode, h.written]

theorem Holds.left {content : ByteArray} (h : f.Holds name content) : f.left name = some content := by
  rw [left_of_write ⟨h.name, h.isOpen⟩ h.mode, h.written]

theorem direction_of_open (h : f.name = name ∧ f.isOpen = true) : f.direction name = some f.mode := by
  simp [direction, h]

end RegularFile

/-- A file that is not the terminal. -/
def OpenFile.regular? : OpenFile → Option RegularFile
  | .regular f => some f
  | _ => none

namespace Desk

variable {d d' : Desk} {name : String} {α : Type} {pick : RegularFile → Option α}

theorem previous_eq (d : Desk) (name : String) : d.previous name = d.latest (·.shown name) := rfl

theorem readBack_eq (d : Desk) (name : String) : d.readBack name = d.latest (·.left name) := rfl

/-- The direction in which a name was last opened. -/
def newest (d : Desk) (name : String) : Option Mode := d.latest (·.direction name)

theorem latest_eq (d : Desk) (pick : RegularFile → Option α) :
    d.latest pick = (d.table.map fun f => f.regular?.bind pick).toList.reverse.findSome? id := by
  have hpick :
      (fun f : OpenFile => match f with | .regular f => pick f | _ => none) = fun f => f.regular?.bind pick := by
    funext f
    cases f <;> rfl
  rw [Array.toList_map, ← List.map_reverse, List.findSome?_map]
  exact congrArg (List.findSome? · d.table.toList.reverse) hpick

theorem latest_push (d : Desk) (f : OpenFile) :
    (d.push f).2.latest pick = (f.regular?.bind pick).or (d.latest pick) := by
  rw [latest_eq, latest_eq, push, Array.map_push, Array.toList_push, List.reverse_append, List.findSome?_append]
  cases h : f.regular?.bind pick <;> rfl

theorem latest_congr {β : Type} {pick : RegularFile → Option β}
    (h : d'.table.map (fun f => f.regular?.bind pick) = d.table.map fun f => f.regular?.bind pick) :
    d'.latest pick = d.latest pick := by
  rw [latest_eq, latest_eq, h]

/-- When a name was last opened for writing, both lookups come to that handle. -/
theorem previous_eq_readBack_of_newest (h : d.newest name = some .write) : d.previous name = d.readBack name := by
  rw [newest, latest] at h
  rw [previous_eq, readBack_eq, latest, latest]
  generalize d.table.toList.reverse = table at h ⊢
  -- from the last handle on: the first one of that name is met by both lookups
  induction table with
  | nil => cases h
  | cons f table ih =>
    simp only [List.findSome?_cons] at h ⊢
    cases f with
    | regular f =>
      dsimp only at h ⊢
      by_cases hf : f.name = name ∧ f.isOpen = true
      · rw [RegularFile.direction_of_open hf] at h
        have hmode : f.mode = .write := Option.some.inj h
        simp only [RegularFile.shown_of_write hf hmode, RegularFile.left_of_write hf hmode]
      · rw [RegularFile.direction_of_other hf] at h
        simp only [RegularFile.shown_of_other hf, RegularFile.left_of_other hf]
        exact ih h
    | keyboard content cursor => exact ih h
    | screen => exact ih h

/-- A lookup does not come to a file that stands before another one that it accepts. -/
theorem latest_of_later {R : OpenFile → OpenFile → Prop} {handle : Int32} (h : Retouched R handle d d') {j : Nat}
    {g : RegularFile} (hj : handle.toInt.toNat < j) (hget : d.table[j]? = some (.regular g))
    (hpick : (pick g).isSome) : d'.latest pick = d.latest pick := by
  rcases h.table with htable | ⟨f, f', -, -, htable⟩
  · rw [latest, latest, htable]
  · rw [latest, latest, htable, Array.toList_setIfInBounds]
    generalize hp : (fun f : OpenFile => match f with | .regular f => pick f | _ => none) = p
    -- the lookup ends behind the file that changes, so only that part of the table counts
    have hlast (l : List OpenFile) (hdrop : l.drop j = d.table.toList.drop j) :
        l.reverse.findSome? p = (d.table.toList.drop j).reverse.findSome? p := by
      have hmem : .regular g ∈ (d.table.toList.drop j).reverse := by
        rw [List.mem_reverse, List.mem_iff_getElem?]
        exact ⟨0, by rw [List.getElem?_drop, Nat.add_zero, Array.getElem?_toList, hget]⟩
      have hsome : ((d.table.toList.drop j).reverse.findSome? p).isSome := by
        rw [List.findSome?_isSome_iff]
        exact ⟨_, hmem, hp ▸ hpick⟩
      rw [← List.take_append_drop j l, hdrop, List.reverse_append, List.findSome?_append, Option.or_of_isSome hsome]
    rw [hlast _ (List.drop_set_of_lt hj), hlast _ rfl]

/-! ## What changes what a table shows -/

/-- No file that was opened after the one behind the handle has its name and its direction. -/
def IsLast (d : Desk) (handle : Int32) (f : RegularFile) : Prop :=
  ∀ j g, handle.toInt.toNat < j → d.table[j]? = some (.regular g) → g.name = f.name ∧ g.isOpen = true →
    g.mode ≠ f.mode

/-- The act changes the last file of that name and of its direction, as the host sees it: it
writes to it, or it reads one that was opened for writing, of which the position is the
length. -/
def Disturbs (d : Desk) (name : String) (a : Act) : Prop :=
  ∃ handle f, d.file handle = .ok (.regular f) ∧ (f.name = name ∧ f.isOpen = true) ∧ d.IsLast handle f ∧
    ((∃ data, a.written? = some (handle, data)) ∨
      f.mode = .write ∧ ∃ m pointer length, a = .get m handle pointer length)

/-- A file that is not written to, and not read if it was opened for writing, shows the same. -/
theorem shown_of_effect {a : Act} {handle : Int32} {f f' : RegularFile}
    (heffect : a.Effect handle (.regular f) (.regular f')) (hf : f.name = name ∧ f.isOpen = true)
    (hcalm : ¬ ((∃ data, a.written? = some (handle, data)) ∨
      f.mode = .write ∧ ∃ m pointer length, a = .get m handle pointer length)) :
    f'.shown name = f.shown name ∧ f'.left name = f.left name := by
  cases heffect with
  | get hturned =>
    have hread : f.mode = .read := by
      cases hdirection : f.mode with
      | write => exact absurd (Or.inr ⟨hdirection, _, _, _, rfl⟩) hcalm
      | read => rfl
    obtain ⟨cursor, hcursor, -⟩ := hturned
    obtain rfl : f' = { f with cursor } := OpenFile.regular.inj hcursor
    rw [RegularFile.shown_of_read hf hread, RegularFile.left_of_read hread]
    exact ⟨RegularFile.shown_of_read hf hread, RegularFile.left_of_read hread⟩
  | inputLine hturned =>
    obtain ⟨cursor, hcursor, hposition⟩ := hturned
    obtain rfl : f' = { f with cursor } := OpenFile.regular.inj hcursor
    have hwritten : RegularFile.written { f with cursor } = f.written := by
      have hsame : cursor.position = f.cursor.position := hposition.elim id id
      rw [RegularFile.written, RegularFile.written, hsame]
    simp only [RegularFile.shown, RegularFile.left, hwritten]
    exact ⟨trivial, trivial⟩
  | write hdata _ => exact absurd (Or.inl ⟨_, hdata⟩) hcalm

/-- A file that is worked on is the terminal and stays it, or keeps its name, its direction and
whether it is open. -/
theorem regular_of_effect {a : Act} {handle : Int32} {f f' : OpenFile} (heffect : a.Effect handle f f') :
    f.regular? = none ∧ f'.regular? = none ∨
      ∃ g g', f = .regular g ∧ f' = .regular g' ∧ g'.name = g.name ∧ g'.mode = g.mode ∧ g'.isOpen = g.isOpen := by
  have htag := heffect.tag
  cases f' with
  | keyboard content cursor => cases f with | regular f => cases htag | _ => exact Or.inl ⟨rfl, rfl⟩
  | screen => cases f with | regular f => cases htag | _ => exact Or.inl ⟨rfl, rfl⟩
  | regular g' =>
    cases f with
    | keyboard content cursor => cases htag
    | screen => cases htag
    | regular g =>
      simp only [OpenFile.tag, Option.some.injEq, Prod.mk.injEq] at htag
      exact Or.inr ⟨g, g', rfl, rfl, htag⟩

/-- A lookup that does not tell a regular file from what an act makes of it. -/
theorem latest_of_worked {a : Act} {handle : Int32} (hworked : Retouched (a.Effect handle) handle d d')
    (hpick : ∀ {f f'}, d.file handle = .ok (.regular f) → a.Effect handle (.regular f) (.regular f') →
      f'.name = f.name → f'.mode = f.mode → f'.isOpen = f.isOpen → pick f' = pick f) :
    d'.latest pick = d.latest pick := by
  refine latest_congr (hworked.map_table fun {f f'} hfile heffect => ?_)
  rcases regular_of_effect heffect with ⟨hnone, hnone'⟩ | ⟨g, g', rfl, rfl, hname, hmode, hopen⟩
  · rw [hnone, hnone']
  · exact hpick hfile heffect hname hmode hopen

/-- Work on a file changes neither lookup of a name that it does not disturb. -/
theorem lookups_of_worked {a : Act} {handle : Int32} (hworked : Retouched (a.Effect handle) handle d d')
    (hcalm : ¬ d.Disturbs name a) : d'.previous name = d.previous name ∧ d'.readBack name = d.readBack name := by
  rw [previous_eq, previous_eq, readBack_eq, readBack_eq]
  by_cases hhidden : ∃ f, d.file handle = .ok (.regular f) ∧ (f.name = name ∧ f.isOpen = true) ∧
      ¬ d.IsLast handle f
  · -- a later file of the same direction is found before the one behind the handle
    obtain ⟨f, hfile, hf, hlater⟩ := hhidden
    simp only [IsLast, not_forall, Decidable.not_not] at hlater
    obtain ⟨j, g, hj, hget, hg, hmode⟩ := hlater
    have hg : g.name = name ∧ g.isOpen = true := ⟨hg.1.trans hf.1, hg.2⟩
    refine ⟨latest_of_later hworked hj hget (by simp [RegularFile.shown, hg]), ?_⟩
    cases hdirection : f.mode with
    | write =>
      rw [hdirection] at hmode
      exact latest_of_later hworked hj hget (by rw [RegularFile.left_of_write hg hmode]; rfl)
    | read =>
      refine latest_of_worked hworked fun {g g'} hfile' _ _ hmode' _ => ?_
      cases hfile.symm.trans hfile'
      rw [RegularFile.left_of_read hdirection, RegularFile.left_of_read (hmode'.trans hdirection)]
  · have hsame {f f' : RegularFile} (hfile : d.file handle = .ok (.regular f))
        (heffect : a.Effect handle (.regular f) (.regular f')) (hname : f'.name = f.name)
        (hopen : f'.isOpen = f.isOpen) : f'.shown name = f.shown name ∧ f'.left name = f.left name := by
      by_cases hf : f.name = name ∧ f.isOpen = true
      · refine shown_of_effect heffect hf fun hdisturbs => hcalm ⟨handle, f, hfile, hf, ?_, hdisturbs⟩
        exact Classical.byContradiction fun hlater => hhidden ⟨f, hfile, hf, hlater⟩
      · have hf' : ¬ (f'.name = name ∧ f'.isOpen = true) := by rwa [hname, hopen]
        rw [RegularFile.shown_of_other hf, RegularFile.shown_of_other hf', RegularFile.left_of_other hf,
          RegularFile.left_of_other hf']
        exact ⟨rfl, rfl⟩
    exact ⟨latest_of_worked hworked fun hfile heffect hname _ hopen => (hsame hfile heffect hname hopen).1,
      latest_of_worked hworked fun hfile heffect hname _ hopen => (hsame hfile heffect hname hopen).2⟩

/-- Work on a file does not change the directions in which names were opened. -/
theorem newest_of_worked {a : Act} {handle : Int32} (hworked : Retouched (a.Effect handle) handle d d')
    (name : String) :
    d'.newest name = d.newest name := by
  refine latest_of_worked hworked fun _ _ hname hmode hopen => ?_
  rw [RegularFile.direction, RegularFile.direction, hname, hmode, hopen]

/-- A name that an act disturbs has been opened. -/
theorem newest_of_disturbs {a : Act} (h : d.Disturbs name a) : d.newest name ≠ none := by
  obtain ⟨handle, f, hfile, hf, -⟩ := h
  intro hnone
  rw [newest, latest, List.findSome?_eq_none_iff] at hnone
  have hmem : .regular f ∈ d.table.toList.reverse :=
    List.mem_reverse.mpr (Array.mem_toList_iff.mpr (Array.mem_of_getElem? (getElem?_of_file hfile)))
  have hdirection : f.direction name = none := hnone _ hmem
  rw [RegularFile.direction_of_open hf] at hdirection
  cases hdirection

/-! ## What both lookups come to -/

theorem previous_push (f : RegularFile) : (d.push (.regular f)).2.previous name = (f.shown name).or (d.previous name) :=
  latest_push d (.regular f)

theorem readBack_push (f : RegularFile) : (d.push (.regular f)).2.readBack name = (f.left name).or (d.readBack name) :=
  latest_push d (.regular f)

theorem previous_push_of_holds {f : RegularFile} {content : ByteArray} (h : f.Holds name content) :
    (d.push (.regular f)).2.previous name = some content := by
  rw [previous_push, h.shown, Option.some_or]

theorem readBack_push_of_holds {f : RegularFile} {content : ByteArray} (h : f.Holds name content) :
    (d.push (.regular f)).2.readBack name = some content := by
  rw [readBack_push, h.left, Option.some_or]

theorem after_of_opens {a : Act} {mode : Mode} {resuming : Bool} (h : a.Opens name mode resuming) :
    d.after a = some (d.open name mode resuming).2 := by
  rcases h with rfl | ⟨raw, rfl, hparse⟩
  · rfl
  · have hopen : d.openRaw raw mode resuming = d.open name mode resuming := by
      simp only [openRaw, hparse]
    change some (d.openRaw raw mode resuming).2 = _
    rw [hopen]

theorem Finds.name_eq {mode : Mode} {f : RegularFile} (h : d.Finds name mode f) : f.name = name := by
  cases h <;> rfl

/-- A file of the name that an open for reading finds is shown as what is read back of the name. -/
theorem agree_of_finds {mode : Mode} {f : RegularFile} (hfinds : d.Finds name mode f) (hmode : mode ≠ .write)
    (hmetric : d.metric name .read = none) (hstored : d.contents[name]? = none)
    (hagree : d.previous name = d.readBack name) :
    (f.shown name).or (d.previous name) = (f.left name).or (d.readBack name) := by
  cases hfinds with
  | fresh => exact absurd rfl hmode
  | stored _ hcontent => cases hcontent.symm.trans hstored
  | @metric mode data hdata =>
    cases mode with
    | write => exact absurd rfl hmode
    | read => cases hdata.symm.trans hmetric
  | @previous content hprevious =>
    have hshown : (RegularFile.opened name .read content).shown name = some content :=
      RegularFile.shown_of_read ⟨rfl, rfl⟩ rfl
    have hleft : (RegularFile.opened name .read content).left name = none := RegularFile.left_of_read rfl
    rw [hshown, hleft, Option.none_or, ← hagree, hprevious]
    rfl
  | missing hnone =>
    have hfailed : ¬ ((RegularFile.failed name).name = name ∧ (RegularFile.failed name).isOpen = true) :=
      fun h => nomatch h.2
    rw [RegularFile.shown_of_other hfailed, RegularFile.left_of_other hfailed, hagree]

/-- An act that does not open a name for writing, and does not disturb it while it was last
opened for reading, leaves the two lookups of it in agreement. -/
theorem agree_of_step {a : Act} (hstep : a.Step d d') (hmetric : d.metric name .read = none)
    (hstored : d'.contents[name]? = none) (hreads : ∀ resuming, ¬ a.Opens name .write resuming)
    (hcalm : d.newest name = some .read → ¬ d.Disturbs name a) (hagree : d.previous name = d.readBack name) :
    d'.previous name = d'.readBack name := by
  cases hstep with
  | stored name' content => exact hagree
  | @terminal _ f hterminal =>
    have hnone : f.regular? = none := by
      rcases hterminal with rfl | rfl <;> rfl
    rw [previous_eq, readBack_eq, latest_push, latest_push, hnone]
    exact hagree
  | @opened _ name' mode resuming hopens =>
    rcases d.finds_of_open name' mode resuming with ⟨f, hfinds, hopen⟩ | hopen
    · rw [hopen] at hstored ⊢
      rw [previous_push, readBack_push]
      -- only a file of the name itself can come between the lookups and what they found
      by_cases hname : name' = name
      · subst hname
        refine agree_of_finds hfinds ?_ hmetric hstored hagree
        rintro rfl
        exact hreads resuming hopens
      · have hother : ¬ (f.name = name ∧ f.isOpen = true) := fun h => hname (hfinds.name_eq.symm.trans h.1)
        rw [RegularFile.shown_of_other hother, RegularFile.left_of_other hother, hagree]
    · rw [hopen]
      exact hagree
  | worked handle hworked =>
    -- a name is disturbed only while it was last opened for writing, where the lookups agree
    by_cases hdisturbs : d.Disturbs name a
    · refine previous_eq_readBack_of_newest ?_
      rw [newest_of_worked hworked]
      cases hnewest : d.newest name with
      | none => exact absurd hnewest (newest_of_disturbs hdisturbs)
      | some mode =>
        cases mode with
        | read => exact absurd hdisturbs (hcalm hnewest)
        | write => rfl
    · obtain ⟨hprevious, hback⟩ := lookups_of_worked hworked hdisturbs
      rw [hprevious, hback]
      exact hagree

/-- A name of which nothing is stored is opened for writing. -/
theorem open_write_of_fresh (hstored : d.contents[name]? = none) (resuming : Bool) :
    d.open name .write resuming = d.push (.regular (.opened name .write .empty)) := by
  have hmetric : d.metric name .write = none := rfl
  simp only [Desk.open, hmetric, hstored]
  rfl

/-- A name that is opened for writing was last opened for writing, unless it is stored. -/
theorem newest_of_open_write (hstored : d.contents[name]? = none) (resuming : Bool) :
    (d.open name .write resuming).2.newest name = some .write := by
  rw [open_write_of_fresh hstored, newest, latest_push]
  exact congrArg (Option.or · _) (RegularFile.direction_of_open ⟨rfl, rfl⟩)

theorem metric_of_step {a : Act} (hstep : a.Step d d') (name : String) (mode : Mode) :
    d'.metric name mode = d.metric name mode := by
  rw [metric, metric, fonts_of_step hstep]

/-- What is stored stays stored. -/
theorem stored_of_step {a : Act} (hstep : a.Step d d') (hstored : d'.contents[name]? = none) :
    d.contents[name]? = none := by
  cases hstep with
  | stored name' content =>
    rw [insert, Std.HashMap.getElem?_insert] at hstored
    split at hstored
    · cases hstored
    · exact hstored
  | @opened a name' mode resuming hopens =>
    rcases d.finds_of_open name' mode resuming with ⟨f, -, hopen⟩ | hopen
    · rwa [hopen] at hstored
    · rwa [hopen] at hstored
  | terminal _ => exact hstored
  | worked handle hworked => rwa [hworked.contents] at hstored

/-! ## Over a run -/

/-- After these acts the last reader of the name no longer shows what is read back: an act has
disturbed the name while it was last opened for reading, and it has not been opened for
writing since. -/
def OutOfDate (d₀ : Desk) (acts : List Act) (name : String) : Prop :=
  ∃ before a later d, acts = before ++ a :: later ∧ d₀.run before = some d ∧ d.newest name = some .read ∧
    d.Disturbs name a ∧ ∀ b ∈ later, ∀ resuming, ¬ b.Opens name .write resuming

theorem OutOfDate.concat {d₀ : Desk} {acts : List Act} (h : OutOfDate d₀ acts name) {a : Act}
    (ha : ∀ resuming, ¬ a.Opens name .write resuming) : OutOfDate d₀ (acts ++ [a]) name := by
  obtain ⟨before, b, later, d, rfl, hrun, hnewest, hdisturbs, hlater⟩ := h
  refine ⟨before, b, later ++ [a], d, by simp, hrun, hnewest, hdisturbs, fun c hc => ?_⟩
  rcases List.mem_append.mp hc with hc | hc
  · exact hlater c hc
  · rw [List.mem_singleton.mp hc]
    exact ha

/-- The two lookups of a name agree after every run that leaves it up to date. -/
theorem agree_of_run {d₀ : Desk} (htable : d₀.table = #[]) {acts : List Act} (hrun : d₀.run acts = some d)
    (hmetric : d.metric name .read = none) (hstored : d.contents[name]? = none)
    (hdate : ¬ OutOfDate d₀ acts name) : d.previous name = d.readBack name := by
  refine run_induction (P := fun acts d => d.metric name .read = none → d.contents[name]? = none →
    ¬ OutOfDate d₀ acts name → d.previous name = d.readBack name) ?_ ?_ hrun hmetric hstored hdate
  · intro _ _ _
    rw [previous_eq, readBack_eq, latest, latest, htable]
    rfl
  · intro acts d a d' hacts ih hafter hmetric hstored hdate
    have hstep := step_of_after hafter
    rw [metric_of_step hstep] at hmetric
    -- an open for writing makes the lookups agree, whatever was before
    by_cases hwrites : ∃ resuming, a.Opens name .write resuming
    · obtain ⟨resuming, hopens⟩ := hwrites
      rw [after_of_opens hopens] at hafter
      obtain rfl := Option.some.inj hafter
      exact previous_eq_readBack_of_newest (newest_of_open_write (stored_of_step hstep hstored) resuming)
    · have hreads : ∀ resuming, ¬ a.Opens name .write resuming := fun resuming h => hwrites ⟨resuming, h⟩
      refine agree_of_step hstep hmetric hstored hreads (fun hnewest hdisturbs => ?_) ?_
      · exact hdate ⟨acts, a, [], d, rfl, hacts, hnewest, hdisturbs, fun b hb => nomatch hb⟩
      · exact ih hmetric (stored_of_step hstep hstored) fun h => hdate (h.concat hreads)

/-- **A file that is reopened shows what was written.**  Let `content` be what is read back of a
name after any run, and let the name be neither stored nor a metric that the source has.  Then
an open of it for reading succeeds and gives a file with exactly this content, if what was
opened last under the name was opened for writing, or was opened for reading and the name has
not been disturbed since. -/
theorem opened_eq_readBack {script : ByteArray} {fonts : FontSource} {acts : List Act}
    (hrun : (Desk.start script fonts).run acts = some d) (hmetric : d.metric name .read = none)
    (hstored : d.contents[name]? = none) (hdate : ¬ OutOfDate (Desk.start script fonts) acts name)
    {content : ByteArray} (hback : d.readBack name = some content) (resuming : Bool) :
    d.open name .read resuming = d.push (.regular (.opened name .read content)) := by
  have hprevious : d.previous name = some content := (agree_of_run rfl hrun hmetric hstored hdate).trans hback
  simp only [Desk.open, hmetric, hstored, hprevious]
  rfl

/-- Not every file that is reopened shows what was written: a stored name shows what is
stored. -/
theorem reopening_stored_shows_stored :
    ¬ ∀ (script : ByteArray) (fonts : FontSource) (acts : List Act) (d : Desk) (name : String) (content : ByteArray),
      (Desk.start script fonts).run acts = some d → d.readBack name = some content →
      ∀ resuming handle d', d.open name .read resuming = (.opened handle, d') →
        ∃ f, d'.table[handle]? = some (.regular f) ∧ f.buffer = content := by
  intro h
  let d₀ : Desk := (Desk.start .empty fun _ => none).insert "a.tex" "x".toUTF8
  let d : Desk := (d₀.push (.regular (.opened "a.tex" .write "x".toUTF8))).2
  have hstored : d₀.contents["a.tex"]? = some "x".toUTF8 := Std.HashMap.getElem?_insert_self
  have hwrite : d₀.open "a.tex" .write false = d₀.push (.regular (.opened "a.tex" .write "x".toUTF8)) := by
    have hmetric : d₀.metric "a.tex" .write = none := rfl
    simp only [Desk.open, hmetric, hstored]
  have hread : d.open "a.tex" .read false = d.push (.regular (.opened "a.tex" .read "x".toUTF8)) := by
    have hmetric : d.metric "a.tex" .read = none := rfl
    have hcontents : d.contents = d₀.contents := rfl
    simp only [Desk.open, hmetric, hcontents, hstored]
  have hrun : (Desk.start .empty fun _ => none).run
      [.insert "a.tex" "x".toUTF8, .openFile "a.tex" .write false] = some d := by
    change some (d₀.open "a.tex" .write false).2 = some d
    rw [hwrite]
  obtain ⟨f, hget, hbuffer⟩ := h _ _ _ d "a.tex" .empty hrun rfl false 1 _ hread
  cases hget
  exact absurd hbuffer (by decide)

/-- A write to a file that takes it. -/
theorem after_write_of_file {f f' : RegularFile} {data : ByteArray} {handle : Int32}
    (hfile : d.file handle = .ok (.regular f)) (h : f.write data = some f') :
    d.after (.write handle data) = some (d.setFile handle (.regular f')) := by
  have hneg : ¬ handle < 0 := by
    intro hneg
    rw [file, if_pos hneg] at hfile
    cases hfile
  simp only [after, Act.perform, Act.changing, write, if_neg hneg, hfile, h]

/-- A desk on which nothing is stored, and one file is open. -/
def oneFile (f : RegularFile) : Desk := { Desk.start .empty (fun _ => none) with table := #[.regular f] }

/-- A file is opened for writing, and something is written to it. -/
theorem run_write (name : String) (data : ByteArray) (hroom : 2 * data.size ≤ RegularFile.maxCapacity) :
    ∃ f : RegularFile, f.Holds name data ∧
      (Desk.start .empty fun _ => none).run [.openFile name .write false, .write 0 data] = some (oneFile f) := by
  have hempty : (Desk.start .empty fun _ => none).contents[name]? = none := Std.HashMap.getElem?_empty
  obtain ⟨f, hwrite, hf⟩ := (RegularFile.holds_opened name).exists_write data (by simpa using hroom)
  rw [ByteArray.empty_append] at hf
  have hopen : (Desk.start .empty fun _ => none).after (.openFile name .write false) =
      some (oneFile (.opened name .write .empty)) := by
    change some ((Desk.start .empty fun _ => none).open name .write false).2 = _
    rw [open_write_of_fresh hempty]
    rfl
  refine ⟨f, hf, ?_⟩
  rw [run_cons, hopen, Option.bind_some, run_cons, after_write_of_file rfl hwrite]
  rfl

theorem opened_eq_readBack_aux :
    ∃ acts d, (Desk.start .empty fun _ => none).run acts = some d ∧ d.metric "a.aux" .read = none ∧
      d.contents["a.aux"]? = none ∧ ¬ OutOfDate (Desk.start .empty fun _ => none) acts "a.aux" ∧
      d.readBack "a.aux" = some "y".toUTF8 ∧
      d.open "a.aux" .read false = d.push (.regular (.opened "a.aux" .read "y".toUTF8)) := by
  obtain ⟨f, hf, hrun⟩ := run_write "a.aux" "y".toUTF8 (by decide)
  have hempty : (oneFile f).contents["a.aux"]? = none := Std.HashMap.getElem?_empty
  have hdate : ¬ OutOfDate (Desk.start .empty fun _ => none) [.openFile "a.aux" .write false, .write 0 "y".toUTF8]
      "a.aux" := by
    rintro ⟨before, a, later, d, hacts, hbefore, hnewest, -, -⟩
    rcases before with _ | ⟨b, _ | ⟨c, before⟩⟩
    · cases hbefore
      cases hnewest
    · cases hacts
      cases hbefore
      rw [newest_of_open_write Std.HashMap.getElem?_empty] at hnewest
      cases hnewest
    · cases before <;> cases hacts
  have hback : (oneFile f).readBack "a.aux" = some "y".toUTF8 :=
    readBack_push_of_holds (d := Desk.start .empty fun _ => none) hf
  exact ⟨_, _, hrun, rfl, hempty, hdate, hback, opened_eq_readBack hrun rfl hempty hdate hback false⟩

/-! ## A reader that is out of date -/

/-- A file is written, opened for reading, and written again through the first handle. -/
def staleReader : List Act :=
  [.openFile "a.aux" .write false, .write 0 "ab".toUTF8, .openFile "a.aux" .read false, .write 0 "c".toUTF8]

/-- **A reader that is out of date hides what was written since.**  All of it is read back of the
name, which is neither stored nor a metric; but a file that is opened for reading shows what the
reader before it was opened with. -/
theorem reopening_outOfDate_shows_reader :
    ∃ d, (Desk.start .empty fun _ => none).run staleReader = some d ∧ d.metric "a.aux" .read = none ∧
      d.contents["a.aux"]? = none ∧ OutOfDate (Desk.start .empty fun _ => none) staleReader "a.aux" ∧
      d.readBack "a.aux" = some "abc".toUTF8 ∧
      d.open "a.aux" .read false = d.push (.regular (.opened "a.aux" .read "ab".toUTF8)) := by
  let reader : RegularFile := .opened "a.aux" .read "ab".toUTF8
  obtain ⟨f, hf, hwritten⟩ := run_write "a.aux" "ab".toUTF8 (by decide)
  obtain ⟨f', hwrite, hf'⟩ := hf.exists_write "c".toUTF8 (by decide)
  have hempty : (oneFile f).contents["a.aux"]? = none := Std.HashMap.getElem?_empty
  have hshown : (oneFile f).previous "a.aux" = some "ab".toUTF8 :=
    previous_push_of_holds (d := Desk.start .empty fun _ => none) hf
  let read : Desk := ((oneFile f).push (.regular reader)).2
  have hopen : (oneFile f).after (.openFile "a.aux" .read false) = some read := by
    have hmetric : (oneFile f).metric "a.aux" .read = none := rfl
    have hfound : (oneFile f).open "a.aux" .read false = (oneFile f).push (.regular reader) := by
      simp only [Desk.open, hmetric, hempty, hshown]
      rfl
    exact congrArg (fun result => some (Prod.snd result)) hfound
  have hfile : read.file 0 = .ok (.regular f) := rfl
  have hagain : read.after (.write 0 "c".toUTF8) = some ((oneFile f').push (.regular reader)).2 :=
    after_write_of_file hfile hwrite
  have hbefore : (Desk.start .empty fun _ => none).run
      [.openFile "a.aux" .write false, .write 0 "ab".toUTF8, .openFile "a.aux" .read false] = some read :=
    run_concat_of_after hwritten hopen
  refine ⟨((oneFile f').push (.regular reader)).2, run_concat_of_after hbefore hagain, rfl,
    Std.HashMap.getElem?_empty, ?_, ?_, ?_⟩
  · refine ⟨_, _, [], read, rfl, hbefore, ?_, ⟨0, f, hfile, ⟨hf.name, hf.isOpen⟩, ?_, Or.inl ⟨_, rfl⟩⟩, ?_⟩
    · rw [newest, latest_push]
      exact congrArg (Option.or · _) (RegularFile.direction_of_open ⟨rfl, rfl⟩)
    · -- the reader is the only file behind the one that is written to
      intro j g hj hget _ hmode
      rcases j with _ | _ | j
      · exact absurd hj (by decide)
      · cases hget
        have hread : reader.mode = .write := hmode.trans hf.mode
        cases hread
      · cases hget
    · exact List.forall_mem_nil _
  · have hback : (oneFile f').readBack "a.aux" = some "abc".toUTF8 :=
      readBack_push_of_holds (d := Desk.start .empty fun _ => none) hf'
    rw [readBack_push, RegularFile.left_of_read rfl, Option.none_or, hback]
  · have hmetric : ((oneFile f').push (.regular reader)).2.metric "a.aux" .read = none := rfl
    have hempty' : ((oneFile f').push (.regular reader)).2.contents["a.aux"]? = none := Std.HashMap.getElem?_empty
    have hnewest : ((oneFile f').push (.regular reader)).2.previous "a.aux" = some "ab".toUTF8 := by
      rw [previous_push]
      exact congrArg (Option.or · _) (RegularFile.shown_of_read ⟨rfl, rfl⟩ rfl)
    simp only [Desk.open, hmetric, hempty', hnewest]
    rfl

end Desk

end Galley
