import Galley.Proofs.File.Frame

/-! # What an open can find

A desk `Knows` a name if a read of it does not have to wait for a fetch: the font source
answers it, its content is stored, the session has opened it before, or it is a scratch
file.  Only a name that is not known is ever to be fetched (`open_cases`).  What is known
once stays known (`Grows.knows`), since contents and tags are only added, and a name that
has been opened is known from then on (`knows_of_opened`). -/
namespace Galley.Desk

/-- A read of the name needs no fetch. -/
def Knows (d : Desk) (name : String) : Prop :=
  (d.metric name .read).isSome ∨ d.contents[name]?.isSome ∨ (∃ mode, some (name, mode, true) ∈ d.tags) ∨
    FileName.isScratch name

theorem previous_eq_none {d : Desk} {name : String} :
    d.previous name = none ↔ ∀ mode, some (name, mode, true) ∉ d.tags := by
  simp only [previous, latest, List.findSome?_eq_none_iff, List.mem_reverse, Array.mem_toList_iff, tags,
    Array.mem_map, not_exists, not_and]
  constructor
  · intro h mode f hf htag
    cases f with
    | regular f =>
      have hnone := h _ hf
      simp only [OpenFile.tag, Option.some.injEq, Prod.mk.injEq] at htag
      simp [htag] at hnone
    | keyboard content cursor => cases htag
    | screen => cases htag
  · intro h f hf
    cases f with
    | regular f =>
      have hnot := h f.mode _ hf
      simp only [OpenFile.tag, Option.some.injEq, Prod.mk.injEq, true_and] at hnot
      simp only [ite_eq_right_iff, reduceCtorEq, imp_false, Bool.and_eq_true, beq_iff_eq]
      exact hnot
    | keyboard content cursor => rfl
    | screen => rfl

/-- An open puts a file into the table, or asks for a fetch of a name that is not known. -/
theorem open_cases (d : Desk) (name : String) (mode : Mode) (resuming : Bool) :
    (∃ f, d.open name mode resuming = d.push f) ∨
      (d.open name mode resuming = (.fetch name, d) ∧ mode = .read ∧ resuming = false ∧ ¬ d.Knows name) := by
  rw [Desk.open]
  cases hmetric : d.metric name mode with
  | some data => exact Or.inl ⟨_, rfl⟩
  | none =>
    cases hcontent : d.contents[name]? with
    | some content => exact Or.inl ⟨_, rfl⟩
    | none =>
      cases mode with
      | write => exact Or.inl ⟨_, rfl⟩
      | read =>
        cases hprevious : d.previous name with
        | some content => exact Or.inl ⟨_, rfl⟩
        | none =>
          by_cases hskip : (resuming || FileName.isScratch name) = true
          · simp only [hskip, if_true]
            exact Or.inl ⟨_, rfl⟩
          · rw [Bool.not_eq_true, Bool.or_eq_false_iff] at hskip
            refine Or.inr ⟨?_, rfl, hskip.1, ?_⟩
            · simp only [hskip.1, hskip.2]
              rfl
            · rintro (h | h | ⟨mode, h⟩ | h)
              · rw [hmetric] at h
                cases h
              · rw [hcontent] at h
                cases h
              · exact previous_eq_none.mp hprevious mode h
              · rw [hskip.2] at h
                cases h

/-- A read of a name that is not known asks for a fetch. -/
theorem open_of_not_knows {d : Desk} {name : String} (h : ¬ d.Knows name) :
    d.open name .read false = (.fetch name, d) := by
  simp only [Knows, not_or, not_exists, Option.not_isSome_iff_eq_none] at h
  obtain ⟨hmetric, hcontent, htags, hscratch⟩ := h
  have hprevious : d.previous name = none := previous_eq_none.mpr htags
  rw [Desk.open, hmetric, hcontent, hprevious]
  simp only [hscratch]
  rfl

theorem openRaw_cases (d : Desk) (raw : ByteArray) (mode : Mode) (resuming : Bool) :
    (∃ f, d.openRaw raw mode resuming = d.push f) ∨
      ∃ name, FileName.parse raw.data.toList = .file name ∧ d.openRaw raw mode resuming = (.fetch name, d) ∧
        mode = .read ∧ resuming = false ∧ ¬ d.Knows name := by
  unfold openRaw
  cases FileName.parse raw.data.toList with
  | terminal =>
    cases mode with
    | read => exact Or.inl ⟨_, rfl⟩
    | write => exact Or.inl ⟨_, rfl⟩
  | file name =>
    rcases d.open_cases name mode resuming with h | h
    · exact Or.inl h
    · exact Or.inr ⟨name, rfl, h⟩

theorem not_knows_of_fetch {d d' : Desk} {raw : ByteArray} {mode : Mode} {resuming : Bool} {name : String}
    (h : d.openRaw raw mode resuming = (.fetch name, d')) : ¬ d.Knows name := by
  rcases d.openRaw_cases raw mode resuming with ⟨f, hpush⟩ | ⟨name', -, hfetch, -, -, hnot⟩
  · rw [hpush] at h
    cases h
  · rw [hfetch] at h
    cases h
    exact hnot

/-- The open that comes back from a fetch does not ask for another one. -/
theorem openRaw_of_resuming (d : Desk) (raw : ByteArray) (mode : Mode) :
    ∃ handle d', d.openRaw raw mode true = (.opened handle, d') := by
  rcases d.openRaw_cases raw mode true with ⟨f, h⟩ | ⟨name, -, -, -, hresuming, -⟩
  · exact ⟨_, _, h⟩
  · cases hresuming

/-! ## Other contents -/

variable {d d' : Desk} {contents : Std.HashMap String ByteArray} {name : String}

/-- An open depends on the contents through what is stored under its own name. -/
theorem open_withContents (h : contents[name]? = d.contents[name]?) (mode : Mode) (resuming : Bool) :
    (d.withContents contents).open name mode resuming =
      ((d.open name mode resuming).1, (d.open name mode resuming).2.withContents contents) := by
  have hmetric : (d.withContents contents).metric name mode = d.metric name mode := rfl
  have hprevious : (d.withContents contents).previous name = d.previous name := rfl
  have hcontents : (d.withContents contents).contents[name]? = d.contents[name]? := h
  rw [Desk.open, Desk.open, hmetric, hprevious, hcontents]
  cases d.metric name mode with
  | some data => rfl
  | none =>
    cases d.contents[name]? with
    | some content => rfl
    | none =>
      cases mode with
      | write => rfl
      | read =>
        cases d.previous name with
        | some content => rfl
        | none =>
          by_cases hskip : (resuming || FileName.isScratch name) = true
          · simp only [hskip]
            rfl
          · simp only [hskip]
            rfl

theorem openRaw_withContents {raw : ByteArray}
    (h : ∀ {name}, FileName.parse raw.data.toList = .file name → contents[name]? = d.contents[name]?)
    (mode : Mode) (resuming : Bool) :
    (d.withContents contents).openRaw raw mode resuming =
      ((d.openRaw raw mode resuming).1, (d.openRaw raw mode resuming).2.withContents contents) := by
  unfold openRaw
  cases hparse : FileName.parse raw.data.toList with
  | terminal => cases mode <;> rfl
  | file name => exact open_withContents (h hparse) mode resuming

/-- An open of a stored file is the same before and after a fetch. -/
theorem openRaw_of_stored {raw content : ByteArray} (hparse : FileName.parse raw.data.toList = .file name)
    (hstored : d.contents[name]? = some content) (mode : Mode) (resuming resuming' : Bool) :
    d.openRaw raw mode resuming = d.openRaw raw mode resuming' := by
  simp only [openRaw, hparse, Desk.open, hstored]

/-! ## Growing -/

/-- The second desk has all the contents, tags and fonts that the first one has. -/
structure Grows (d d' : Desk) : Prop where
  contents : ∀ {name : String}, d.contents[name]?.isSome → d'.contents[name]?.isSome
  tags : ∀ {tag}, tag ∈ d.tags → tag ∈ d'.tags
  fonts : d'.fonts = d.fonts

namespace Grows

theorem refl (d : Desk) : d.Grows d := ⟨id, id, rfl⟩

theorem trans {d'' : Desk} (h : d.Grows d') (h' : d'.Grows d'') : d.Grows d'' where
  contents := h'.contents ∘ h.contents
  tags := h'.tags ∘ h.tags
  fonts := h'.fonts.trans h.fonts

/-- What is known stays known. -/
theorem knows (h : d.Grows d') (hd : d.Knows name) : d'.Knows name := by
  rcases hd with hd | hd | ⟨mode, hd⟩ | hd
  · left
    rwa [metric, h.fonts]
  · exact Or.inr (Or.inl (h.contents hd))
  · exact Or.inr (Or.inr (Or.inl ⟨mode, h.tags hd⟩))
  · exact Or.inr (Or.inr (Or.inr hd))

end Grows

theorem Keeps.grows (h : d.Keeps d') : d.Grows d' where
  contents hd := by rwa [h.contents]
  tags hd := by rwa [h.tags]
  fonts := h.fonts

theorem grows_insert (d : Desk) (name : String) (content : ByteArray) : d.Grows (d.insert name content) where
  contents {name'} hd := by
    rw [insert, Std.HashMap.getElem?_insert]
    split
    · rfl
    · exact hd
  tags := id
  fonts := rfl

theorem tags_push (d : Desk) (f : OpenFile) : (d.push f).2.tags = d.tags.push f.tag := by
  rw [tags, push, Array.map_push, tags]

theorem grows_push (d : Desk) (f : OpenFile) : d.Grows (d.push f).2 where
  contents := id
  tags hd := by
    rw [tags_push]
    exact Array.mem_push_of_mem _ hd
  fonts := rfl

/-- An open stores nothing. -/
theorem contents_openRaw (d : Desk) (raw : ByteArray) (mode : Mode) (resuming : Bool) :
    (d.openRaw raw mode resuming).2.contents = d.contents := by
  rcases d.openRaw_cases raw mode resuming with ⟨f, h⟩ | ⟨name, -, h, -⟩
  · rw [h]
    rfl
  · rw [h]

/-- An open that does not ask for a fetch leaves the name known, unless it is the open that
comes back from a fetch. -/
theorem knows_of_opened {mode : Mode} {handle : Nat}
    (h : d.open name mode false = (.opened handle, d')) : d'.Knows name := by
  have hopened (content : ByteArray) : (d.push (.regular (.opened name mode content))).2.Knows name := by
    refine Or.inr (Or.inr (Or.inl ⟨mode, ?_⟩))
    rw [tags_push]
    exact Array.mem_push_self
  rw [Desk.open] at h
  cases hmetric : d.metric name mode with
  | some data =>
    rw [hmetric] at h
    cases h
    exact hopened data
  | none =>
    cases hcontent : d.contents[name]? with
    | some content =>
      simp only [hmetric, hcontent] at h
      cases h
      exact hopened content
    | none =>
      cases mode with
      | write =>
        simp only [hmetric, hcontent] at h
        cases h
        exact hopened .empty
      | read =>
        cases hprevious : d.previous name with
        | some content =>
          simp only [hmetric, hcontent, hprevious] at h
          cases h
          exact hopened content
        | none =>
          by_cases hscratch : FileName.isScratch name = true
          · exact Or.inr (Or.inr (Or.inr hscratch))
          · simp only [hmetric, hcontent, hprevious, hscratch] at h
            cases h

theorem knows_of_openRaw {raw : ByteArray} {mode : Mode} {handle : Nat}
    (h : d.openRaw raw mode false = (.opened handle, d')) (hparse : FileName.parse raw.data.toList = .file name) :
    d'.Knows name := by
  simp only [openRaw, hparse] at h
  exact knows_of_opened h

end Galley.Desk
