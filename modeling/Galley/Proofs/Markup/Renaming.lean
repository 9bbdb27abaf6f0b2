import Galley.Markup
import Mathlib.Data.List.TakeWhile

/-! # Renaming the ids of a markup

Ids are found by one scan (`declared`) and rewritten by another (`insertName`),
over text that nobody parses: `pgf` may stand anywhere, a suffix may hold it, and
suffixes may be prefixes of each other.  Still each rewriting acts on a text
attribute by attribute (`Attributewise`): it keeps every opening `id="pgf` and
every closing quote, and makes no new opening.  So the scan of the rewritten text
finds the rewritten suffixes, in their order (`Attributewise.declared_eq`), and in
a renamed text every declared suffix starts with the inserted name
(`declared_rename`). -/
namespace Galley.Markup

/-- What renderers start the names of their elements with. -/
abbrev mark : List Char := ['p', 'g', 'f']

/-- What an id attribute starts with. -/
abbrev opening : List Char := 'i' :: 'd' :: '=' :: '"' :: mark

variable {before before' : Option Char} {s w value more text : List Char}

/-! ## The scan for ids -/

theorem bne_quote (hq : '"' ∉ s) : ∀ c ∈ s, (c != '"') = true := by
  intro c hc
  exact bne_iff_ne.mpr fun h => hq (h ▸ hc)

theorem declared_unclosed (hq : '"' ∉ value) : declared before (opening ++ value) = [] := by
  have hclosing : value.dropWhile (· != '"') = [] := List.dropWhile_eq_nil_iff.mpr (bne_quote hq)
  simp only [List.cons_append, List.nil_append]
  rw [declared.eq_2]
  split
  · rfl
  · simp_all

theorem declared_closed (hq : '"' ∉ s) :
    declared before (opening ++ (s ++ '"' :: more)) =
      if isBoundary before && !s.isEmpty then s :: declared (some '"') more
      else declared (some '"') more := by
  have htake : (s ++ '"' :: more).takeWhile (· != '"') = s := by
    simp [List.takeWhile_append_of_pos (bne_quote hq)]
  have hdrop : (s ++ '"' :: more).dropWhile (· != '"') = '"' :: more := by
    simp [List.dropWhile_append_of_pos (bne_quote hq)]
  simp only [List.cons_append, List.nil_append]
  rw [declared.eq_2]
  split
  · simp_all
  · simp_all

theorem declared_cons {c : Char} (h : ¬ opening <+: c :: text) :
    declared before (c :: text) = declared (some c) text := by
  refine declared.eq_3 before c text fun value hc ht => h ?_
  subst hc ht
  exact ⟨value, rfl⟩

@[simp]
theorem declared_cons_of_ne {c : Char} (h : c ≠ 'i') :
    declared before (c :: text) = declared (some c) text :=
  declared_cons fun hp => h (List.cons_prefix_cons.mp hp).1.symm

/-- A text is empty, starts with an id attribute that is closed or not, or starts
with a character that opens none. -/
@[elab_as_elim]
theorem text_induction {motive : List Char → Prop} (nil : motive [])
    (unclosed : ∀ value, '"' ∉ value → motive (opening ++ value))
    (closed : ∀ s more, '"' ∉ s → motive more → motive (opening ++ (s ++ '"' :: more)))
    (cons : ∀ c rest, ¬ opening <+: c :: rest → motive rest → motive (c :: rest)) :
    ∀ text, motive text
  | [] => nil
  | c :: rest => by
    by_cases h : opening <+: c :: rest
    · obtain ⟨value, hvalue⟩ := h
      have hlength := congrArg List.length hvalue
      simp only [List.length_append, List.length_cons] at hlength
      rw [← hvalue]
      by_cases hq : '"' ∈ value
      · obtain ⟨s, more, rfl, hs⟩ := List.eq_append_cons_of_mem hq
        have : more.length < rest.length := by
          simp only [List.length_append, List.length_cons] at hlength
          omega
        exact closed s more hs (text_induction nil unclosed closed cons more)
      · exact unclosed value hq
    · exact cons c rest h (text_induction nil unclosed closed cons rest)
  termination_by text => text.length

/-- Of the character before a text the scan sees only whether a name may end there. -/
theorem declared_congr (h : isBoundary before = isBoundary before') :
    declared before text = declared before' text := by
  cases text using text_induction with
  | nil => rw [declared, declared]
  | unclosed value hq => rw [declared_unclosed hq, declared_unclosed hq]
  | closed s more hq _ => rw [declared_closed hq, declared_closed hq, h]
  | cons c rest hc _ => rw [declared_cons hc, declared_cons hc]

/-- Declared suffixes are what stands between the mark and the quote. -/
theorem suffix_of_mem_declared (h : s ∈ declared before text) : s ≠ [] ∧ '"' ∉ s := by
  induction text using text_induction generalizing before with
  | nil =>
    rw [declared] at h
    cases h
  | unclosed value hq =>
    rw [declared_unclosed hq] at h
    cases h
  | closed s' more hq ih =>
    rw [declared_closed hq] at h
    split at h
    · next hb =>
      rcases List.mem_cons.mp h with rfl | h
      · exact ⟨by simp_all, hq⟩
      · exact ih h
    · exact ih h
  | cons c rest hc ih =>
    rw [declared_cons hc] at h
    exact ih h

/-! ## Rewriting attribute by attribute -/

/-- The rewriting `r` of texts acts on the values of id attributes as `inner`, and
does not disturb the scan elsewhere. -/
structure Attributewise (r inner : List Char → List Char) : Prop where
  nil : r [] = []
  opening : ∀ value, r (opening ++ value) = opening ++ inner value
  quote : ∀ s more, '"' ∉ s → inner (s ++ '"' :: more) = inner s ++ '"' :: r more
  closed : ∀ s, '"' ∉ s → '"' ∉ inner s
  isEmpty : ∀ s, '"' ∉ s → (inner s).isEmpty = s.isEmpty
  elsewhere : ∀ c rest before, ¬ Markup.opening <+: c :: rest →
    declared before (r (c :: rest)) = declared (some c) (r rest)

/-- **The scan commutes with rewriting**: no id is made, lost or moved. -/
theorem Attributewise.declared_eq {r inner : List Char → List Char} (h : Attributewise r inner) :
    declared before (r text) = (declared before text).map inner := by
  induction text using text_induction generalizing before with
  | nil => simp [h.nil, declared]
  | unclosed value hq =>
    rw [h.opening, declared_unclosed (h.closed value hq), declared_unclosed hq, List.map_nil]
  | closed s more hq ih =>
    rw [h.opening, h.quote s more hq, declared_closed (h.closed s hq), declared_closed hq,
      h.isEmpty s hq, ih]
    split <;> rfl
  | cons c rest hc ih => rw [h.elsewhere c rest before hc, ih, declared_cons hc]

/-- A word without a quote starts a text exactly when it does so before the quote. -/
theorem prefix_append_quote_iff (hq : '"' ∉ w) : w <+: s ++ '"' :: more ↔ w <+: s := by
  refine ⟨fun h => ?_, List.prefix_append_of_prefix⟩
  rcases List.prefix_or_prefix_of_prefix h (List.prefix_append s ('"' :: more)) with hw | ⟨v, rfl⟩
  · exact hw
  · rw [List.prefix_append_right_inj, List.prefix_cons_iff] at h
    rcases h with rfl | ⟨t, rfl, -⟩
    · simp only [List.append_nil, List.prefix_rfl]
    · simp at hq

/-! ## Replacing hyphens -/

/-- The reference that is replaced. -/
abbrev hyphen : List Char := ['&', '#', '1', '7', '3', ';']

theorem replaceHyphens_cons {c : Char} (h : ¬ hyphen <+: c :: text) :
    replaceHyphens (c :: text) = c :: replaceHyphens text := by
  refine replaceHyphens.eq_3 c text fun rest hc ht => h ?_
  subst hc ht
  exact ⟨rest, rfl⟩

@[elab_as_elim]
theorem hyphen_induction {motive : List Char → Prop} (nil : motive [])
    (replaced : ∀ rest, motive rest → motive (hyphen ++ rest))
    (cons : ∀ c rest, ¬ hyphen <+: c :: rest → motive rest → motive (c :: rest)) (text : List Char) :
    motive text := by
  induction text using replaceHyphens.induct with
  | case1 => exact nil
  | case2 rest ih => exact replaced rest ih
  | case3 c rest h ih =>
    refine cons c rest (fun hp => ?_) ih
    obtain ⟨v, hv⟩ := hp
    cases hv
    exact h v rfl rfl

@[simp]
theorem replaceHyphens_append_quote :
    replaceHyphens (s ++ '"' :: more) = replaceHyphens s ++ '"' :: replaceHyphens more := by
  induction s using hyphen_induction with
  | nil => rfl
  | replaced rest ih => simp [replaceHyphens, ih]
  | cons c rest hc ih =>
    have hc' : ¬ hyphen <+: c :: (rest ++ '"' :: more) := by
      rwa [← List.cons_append, prefix_append_quote_iff (by decide)]
    rw [List.cons_append, replaceHyphens_cons hc', replaceHyphens_cons hc, ih, List.cons_append]

theorem mem_replaceHyphens {c : Char} (hc : c ∉ "&#172;".toList) (h : c ∈ replaceHyphens text) :
    c ∈ text := by
  induction text using hyphen_induction with
  | nil => exact h
  | replaced rest ih =>
    rcases List.mem_append.mp h with h | h
    · exact absurd h hc
    · exact List.mem_append_right _ (ih h)
  | cons d rest hd ih =>
    rw [replaceHyphens_cons hd, List.mem_cons] at h
    exact List.mem_cons.mpr (h.imp_right ih)

/-- Replacing makes no word in front of a text that holds no `&`. -/
theorem prefix_of_prefix_replaceHyphens (hw : '&' ∉ w) (h : w <+: replaceHyphens text) : w <+: text := by
  induction text using hyphen_induction generalizing w with
  | nil => exact h
  | replaced rest ih =>
    cases w with
    | nil => exact List.nil_prefix
    | cons c w => exact absurd (List.cons_prefix_cons.mp h).1 (fun hc => hw (hc ▸ List.mem_cons_self))
  | cons d rest hd ih =>
    rw [replaceHyphens_cons hd] at h
    cases w with
    | nil => exact List.nil_prefix
    | cons c w =>
      rw [List.cons_prefix_cons] at h ⊢
      exact ⟨h.1, ih (fun hm => hw (List.mem_cons_of_mem _ hm)) h.2⟩

theorem replaceHyphens_isEmpty : (replaceHyphens text).isEmpty = text.isEmpty := by
  cases text using hyphen_induction with
  | nil => rfl
  | replaced rest _ => rfl
  | cons c rest hc _ => rw [replaceHyphens_cons hc, List.isEmpty_cons, List.isEmpty_cons]

theorem replaceHyphens_append_of_not_mem (hw : '&' ∉ w) :
    replaceHyphens (w ++ text) = w ++ replaceHyphens text := by
  induction w with
  | nil => rfl
  | cons c w ih =>
    rw [List.mem_cons, not_or] at hw
    rw [List.cons_append, replaceHyphens_cons, ih hw.2, List.cons_append]
    exact fun h => hw.1 (List.cons_prefix_cons.mp h).1

theorem replaceHyphens_attributewise : Attributewise replaceHyphens replaceHyphens where
  nil := rfl
  opening _ := replaceHyphens_append_of_not_mem (by decide)
  quote _ _ _ := replaceHyphens_append_quote
  closed _ hq h := hq (mem_replaceHyphens (by decide) h)
  isEmpty _ _ := replaceHyphens_isEmpty
  elsewhere c rest before hopen := by
    by_cases h : hyphen <+: c :: rest
    · -- both references end at the same character
      obtain ⟨v, hv⟩ := h
      cases hv
      simp [replaceHyphens]
    · rw [replaceHyphens_cons h, declared_cons]
      rw [← replaceHyphens_cons h]
      exact fun hp => hopen (prefix_of_prefix_replaceHyphens (by decide) hp)

/-! ## Inserting a name -/

/-- A word inside a longer name: after none of its characters may the name of an
attribute start, and none of them starts an id attribute. -/
def IsName (name : List Char) : Prop := ∀ c ∈ name, isBoundary (some c) = false ∧ c ≠ 'i'

theorem IsName.not_mem {name : List Char} {c : Char} (h : IsName name) (hc : isBoundary (some c) = true) :
    c ∉ name := fun hm => by simp [(h c hm).1] at hc

/-- What is inserted in front of a text that follows the mark. -/
def inserted (name : List Char) (suffixes : List (List Char)) (rest : List Char) : List Char :=
  if suffixes.any (·.isPrefixOf rest) then name else []

variable {name : List Char} {suffixes : List (List Char)}

theorem insertName_mark : insertName name suffixes (mark ++ text) =
    mark ++ (inserted name suffixes text ++ insertName name suffixes text) := rfl

theorem insertName_cons {c : Char} (h : ¬ mark <+: c :: text) :
    insertName name suffixes (c :: text) = c :: insertName name suffixes text := by
  refine insertName.eq_3 name suffixes c text fun rest hc ht => h ?_
  subst hc ht
  exact ⟨rest, rfl⟩

@[elab_as_elim]
theorem mark_induction {motive : List Char → Prop} (nil : motive [])
    (marked : ∀ rest, motive rest → motive (mark ++ rest))
    (cons : ∀ c rest, ¬ mark <+: c :: rest → motive rest → motive (c :: rest)) (text : List Char) :
    motive text := by
  induction text using insertName.induct [] [] with
  | case1 => exact nil
  | case2 rest ih => exact marked rest ih
  | case3 c rest h ih =>
    refine cons c rest (fun hp => ?_) ih
    obtain ⟨v, hv⟩ := hp
    cases hv
    exact h v rfl rfl

theorem inserted_append_quote (hS : ∀ s ∈ suffixes, s ≠ [] ∧ '"' ∉ s) :
    inserted name suffixes (s ++ '"' :: more) = inserted name suffixes s := by
  have hany : suffixes.any (·.isPrefixOf (s ++ '"' :: more)) = suffixes.any (·.isPrefixOf s) := by
    rw [Bool.eq_iff_iff]
    simp only [List.any_eq_true, List.isPrefixOf_iff_prefix]
    exact exists_congr fun w => and_congr_right fun hw => prefix_append_quote_iff (hS w hw).2
  rw [inserted, inserted, hany]

theorem insertName_append_quote (hS : ∀ s ∈ suffixes, s ≠ [] ∧ '"' ∉ s) :
    insertName name suffixes (s ++ '"' :: more) =
      insertName name suffixes s ++ '"' :: insertName name suffixes more := by
  induction s using mark_induction with
  | nil => rfl
  | marked rest ih =>
    rw [List.append_assoc, insertName_mark, insertName_mark, ih, inserted_append_quote hS]
    simp
  | cons c rest hc ih =>
    have hc' : ¬ mark <+: c :: (rest ++ '"' :: more) := by
      rwa [← List.cons_append, prefix_append_quote_iff (by decide)]
    rw [List.cons_append, insertName_cons hc', insertName_cons hc, ih, List.cons_append]

theorem inserted_subset : inserted name suffixes text ⊆ name := by
  rw [inserted]
  split
  · exact List.Subset.refl name
  · exact List.nil_subset name

theorem mem_insertName {c : Char} (hc : c ∉ name) (h : c ∈ insertName name suffixes text) : c ∈ text := by
  induction text using mark_induction with
  | nil => exact h
  | marked rest ih =>
    rw [insertName_mark, List.mem_append, List.mem_append] at h
    rcases h with h | h | h
    · exact List.mem_append_left _ h
    · exact absurd (inserted_subset h) hc
    · exact List.mem_append_right _ (ih h)
  | cons d rest hd ih =>
    rw [insertName_cons hd, List.mem_cons] at h
    exact List.mem_cons.mpr (h.imp_right ih)

theorem insertName_isEmpty : (insertName name suffixes text).isEmpty = text.isEmpty := by
  cases text using mark_induction with
  | nil => rfl
  | marked rest _ => rfl
  | cons c rest hc _ => rw [insertName_cons hc, List.isEmpty_cons, List.isEmpty_cons]

/-- Inserting makes no word in front of a text: if it makes none of the words `w`,
then none of the words that a character before `w` gives. -/
theorem cons_prefix_of_insertName {c : Char} (hc : c ≠ 'p')
    (h : c :: w <+: insertName name suffixes text)
    (hrest : ∀ rest, w <+: insertName name suffixes rest → w <+: rest) : c :: w <+: text := by
  cases text using mark_induction with
  | nil => simp [insertName] at h
  | marked rest _ => exact absurd (List.cons_prefix_cons.mp h).1 hc
  | cons d rest hd _ =>
    rw [insertName_cons hd, List.cons_prefix_cons] at h
    exact List.cons_prefix_cons.mpr ⟨h.1, hrest rest h.2⟩

theorem mark_prefix_insertName (h : mark <+: insertName name suffixes text) : mark <+: text := by
  cases text using mark_induction with
  | nil => exact h
  | marked rest _ => exact List.prefix_append mark rest
  | cons c rest hc _ =>
    rw [insertName_cons hc, List.cons_prefix_cons] at h
    refine List.cons_prefix_cons.mpr ⟨h.1, cons_prefix_of_insertName (by decide) h.2 fun _ h => ?_⟩
    exact cons_prefix_of_insertName (by decide) h fun _ _ => List.nil_prefix

theorem opening_prefix_insertName (h : opening <+: insertName name suffixes text) : opening <+: text :=
  cons_prefix_of_insertName (by decide) h fun _ h =>
    cons_prefix_of_insertName (by decide) h fun _ h =>
      cons_prefix_of_insertName (by decide) h fun _ h =>
        cons_prefix_of_insertName (by decide) h fun _ h => mark_prefix_insertName h

/-- Inside a longer name the scan passes over a name. -/
theorem declared_append_of_isName (hw : IsName w) (hb : isBoundary before = false) :
    declared before (w ++ text) = declared before text := by
  induction w generalizing before with
  | nil => rfl
  | cons c w ih =>
    have hc := hw c List.mem_cons_self
    rw [List.cons_append, declared_cons_of_ne hc.2,
      ih (fun d hd => hw d (List.mem_cons_of_mem c hd)) hc.1]
    exact declared_congr (by rw [hb, hc.1])

theorem insertName_attributewise (hname : IsName name) (hS : ∀ s ∈ suffixes, s ≠ [] ∧ '"' ∉ s) :
    Attributewise (insertName name suffixes)
      (fun s => inserted name suffixes s ++ insertName name suffixes s) where
  nil := rfl
  opening _ := rfl
  quote s more _ := by rw [inserted_append_quote hS, insertName_append_quote hS, List.append_assoc]
  closed s hq h := by
    have hquote : '"' ∉ name := hname.not_mem (by decide +kernel)
    rcases List.mem_append.mp h with h | h
    · exact hquote (inserted_subset h)
    · exact hq (mem_insertName hquote h)
  isEmpty s _ := by
    cases s with
    | nil =>
      have hany : suffixes.any (·.isPrefixOf []) = false := by
        simp only [List.any_eq_false, List.isPrefixOf_iff_prefix, List.prefix_nil]
        exact fun w hw => (hS w hw).1
      simp [inserted, hany, insertName]
    | cons c s =>
      have hkept : (insertName name suffixes (c :: s)).isEmpty = false := insertName_isEmpty
      simp_all
  elsewhere c rest before hopen := by
    by_cases h : mark <+: c :: rest
    · -- the character before what was inserted and its last one both belong to a name
      obtain ⟨v, hv⟩ := h
      cases hv
      have hin : IsName (inserted name suffixes v) := fun d hd => hname d (inserted_subset hd)
      have hrest : insertName name suffixes ('g' :: 'f' :: v) = 'g' :: 'f' :: insertName name suffixes v :=
        rfl
      change declared before (insertName name suffixes (mark ++ v)) =
        declared (some 'p') (insertName name suffixes ('g' :: 'f' :: v))
      rw [insertName_mark, hrest]
      have hskip : declared (some 'f') (inserted name suffixes v ++ insertName name suffixes v) =
          declared (some 'f') (insertName name suffixes v) :=
        declared_append_of_isName hin (by decide +kernel)
      simpa using hskip
    · rw [insertName_cons h, declared_cons]
      rw [← insertName_cons h]
      exact fun hp => hopen (opening_prefix_insertName hp)

/-! ## Renaming -/

/-- **Every declared suffix of a renamed text starts with the inserted name.**  The
text declares as many ids as before, in the same order. -/
theorem declared_rename (hname : IsName name) :
    declared none (rename name text) = (declared none text).map fun s =>
      name ++ replaceHyphens (insertName name (declared none text) s) := by
  have hS : ∀ s ∈ declared none text, s ≠ [] ∧ '"' ∉ s := fun s => suffix_of_mem_declared
  have hamp : '&' ∉ name := hname.not_mem (by decide +kernel)
  rw [rename, replaceHyphens_attributewise.declared_eq,
    (insertName_attributewise hname hS).declared_eq, List.map_map]
  refine List.map_congr_left fun s hs => ?_
  have hin : inserted name (declared none text) s = name := by
    have : (declared none text).any (·.isPrefixOf s) = true :=
      List.any_eq_true.mpr ⟨s, hs, List.isPrefixOf_iff_prefix.mpr (List.prefix_refl s)⟩
    rw [inserted, if_pos this]
  rw [Function.comp_apply, hin, replaceHyphens_append_of_not_mem hamp]

end Galley.Markup
