import Galley.Proofs.Text.Trimming
import Galley.Request.Package

/-! # What a package spec spells

A spec that is read is a name, or a name, blanks and any text in brackets, with blanks around
all of it (`Spells`).  Reading accepts each of these, and gives the name and the text as they
stand there.  It accepts one more kind of text: a bare name may hold neither bracket, but in
front of options only the bracket that opens is looked for, so that a name with a closing one
is let through (`Misspells`).  There is nothing else that it accepts, and what is printed is
read back (`parse_eq_ok_iff`). -/
namespace Galley.Package

/-! ## Spelling -/

/-- A name as it stands in a spec: there is something of it, no blank at either end, and no
bracket that opens. -/
structure IsName (cs : List Char) : Prop where
  ne_nil : cs ≠ []
  trimmed : Text.Trimmed cs
  unopened : '[' ∉ cs

/-- The text is a name, blanks, and options in brackets. -/
structure Bracketed (cs name options : List Char) : Prop where
  isName : IsName name
  split : ∃ blanks, (∀ c ∈ blanks, Text.isBlank c) ∧ cs = name ++ blanks ++ '[' :: (options ++ [']'])

/-- The package with this name and these options; empty ones are none. -/
def ofSpelled (name options : List Char) : Package :=
  ⟨.ofList name, if options.isEmpty then none else some (.ofList options)⟩

/-- The text spells the package, by a name without brackets. -/
inductive Spells (cs : List Char) : Package → Prop where
  | bare (hname : IsName cs) (hclosing : ']' ∉ cs) : Spells cs (ofSpelled cs [])
  | bracketed {name options : List Char} (h : Bracketed cs name options) (hclosing : ']' ∉ name) :
      Spells cs (ofSpelled name options)

/-- The text would spell the package if a closing bracket might stand in a name. -/
inductive Misspells (cs : List Char) : Package → Prop where
  | bracketed {name options : List Char} (h : Bracketed cs name options) (hclosing : ']' ∈ name) :
      Misspells cs (ofSpelled name options)

/-- A package as a spec. -/
def spec (p : Package) : String :=
  match p.options with
  | none => p.name
  | some options => p.name ++ "[" ++ options ++ "]"

variable {cs name options before inner : List Char} {p : Package}

theorem Spells.notMem_name (h : Spells cs p) : ']' ∉ p.name.toList := by
  cases h with
  | bare hname hclosing => rwa [ofSpelled, String.toList_ofList]
  | bracketed h hclosing => rwa [ofSpelled, String.toList_ofList]

theorem not_blank_bracket : Text.isBlank '[' = false ∧ Text.isBlank ']' = false := by
  decide

/-! ## Reading -/

theorem splitSpec_of_unopened (h : '[' ∉ cs) : splitSpec cs = (cs, []) := by
  have hall : ∀ c ∈ cs, (c != '[') = true := fun c hc => bne_iff_ne.mpr fun heq => h (heq ▸ hc)
  rw [splitSpec, List.takeWhile_eq_self_iff.mpr hall, List.dropWhile_eq_nil_iff.mpr hall]

theorem splitSpec_of_opened (h : '[' ∉ before) : splitSpec (before ++ '[' :: inner) = (before, '[' :: inner) := by
  have hall : ∀ c ∈ before, (c != '[') = true := fun c hc => bne_iff_ne.mpr fun heq => h (heq ▸ hc)
  have htake : ('[' :: inner).takeWhile (· != '[') = [] := rfl
  have hdrop : ('[' :: inner).dropWhile (· != '[') = '[' :: inner := rfl
  rw [splitSpec, List.takeWhile_append_of_pos hall, List.dropWhile_append_of_pos hall, htake, hdrop, List.append_nil]

/-- A text without an opening bracket is read as a name. -/
theorem parseTrimmed_of_unopened (h : '[' ∉ cs) :
    parseTrimmed cs = if cs.isEmpty || cs.contains ']' then none else some (ofSpelled cs []) := by
  rw [parseTrimmed, splitSpec_of_unopened h]
  rfl

/-- What stands before the first opening bracket is read as a name, and the rest must end in a
closing one. -/
theorem parseTrimmed_of_opened (h : '[' ∉ before) :
    parseTrimmed (before ++ '[' :: inner) =
      if inner.getLast? != some ']' || (Text.trimList before).isEmpty then none
      else some (ofSpelled (Text.trimList before) inner.dropLast) := by
  rw [parseTrimmed, splitSpec_of_opened h]
  rfl

theorem parseTrimmed_of_bare (hname : IsName cs) (hclosing : ']' ∉ cs) :
    parseTrimmed cs = some (ofSpelled cs []) := by
  rw [parseTrimmed_of_unopened hname.unopened, if_neg]
  simp [hname.ne_nil, hclosing]

theorem parseTrimmed_of_bracketed (h : Bracketed cs name options) :
    parseTrimmed cs = some (ofSpelled name options) := by
  obtain ⟨hname, blanks, hblanks, rfl⟩ := h
  have hunopened : '[' ∉ name ++ blanks := by
    intro hmem
    rcases List.mem_append.mp hmem with hmem | hmem
    · exact hname.unopened hmem
    · have hblank := hblanks _ hmem
      rw [not_blank_bracket.1] at hblank
      cases hblank
  have htrim : Text.trimList (name ++ blanks) = name :=
    Text.trimList_append_of_trimmed (p := []) hname.trimmed (by simp) hblanks
  rw [parseTrimmed_of_opened hunopened, htrim, List.getLast?_concat, List.dropLast_concat, if_neg]
  simp [hname.ne_nil]

/-- What is accepted with an opening bracket is a name, blanks, and options in brackets. -/
theorem bracketed_of_parseTrimmed (htrimmed : Text.Trimmed (before ++ '[' :: inner)) (h : '[' ∉ before)
    (hp : parseTrimmed (before ++ '[' :: inner) = some p) :
    ∃ name options, Bracketed (before ++ '[' :: inner) name options ∧ p = ofSpelled name options := by
  rw [parseTrimmed_of_opened h] at hp
  split at hp
  · cases hp
  next hfits =>
    simp only [Bool.or_eq_true, bne_iff_ne, ne_eq, List.isEmpty_iff, not_or, not_not] at hfits
    obtain ⟨hclosing, hne⟩ := hfits
    obtain ⟨front, blanks, hbefore, hfront, hblanks⟩ := Text.exists_eq_append_trimList before
    -- the text begins with no blank, so there is none before the name
    obtain rfl : front = [] := by
      refine List.eq_nil_iff_forall_not_mem.mpr fun c hc => ?_
      obtain ⟨first, rest, rfl⟩ := List.exists_cons_of_ne_nil (List.ne_nil_of_mem hc)
      have hblank := hfront first List.mem_cons_self
      rw [htrimmed.head first (by rw [hbefore]; rfl)] at hblank
      cases hblank
    have hname : IsName (Text.trimList before) :=
      ⟨hne, Text.trimmed_trimList before, fun hmem => h (hbefore ▸ List.mem_append_left _ hmem)⟩
    obtain ⟨options, rfl⟩ := List.getLast?_eq_some_iff.mp hclosing
    refine ⟨_, options, ⟨hname, blanks, hblanks, ?_⟩, ?_⟩
    · rw [List.nil_append] at hbefore
      rw [← hbefore]
    · rw [List.dropLast_concat] at hp
      exact (Option.some.inj hp).symm

/-- **What is accepted of a text without outer blanks.** -/
theorem parseTrimmed_eq_some_iff (htrimmed : Text.Trimmed cs) :
    parseTrimmed cs = some p ↔ Spells cs p ∨ Misspells cs p := by
  constructor
  · intro hp
    by_cases hopened : '[' ∈ cs
    · obtain ⟨before, inner, rfl, hbefore⟩ := List.eq_append_cons_of_mem hopened
      obtain ⟨name, options, hbracketed, rfl⟩ := bracketed_of_parseTrimmed htrimmed hbefore hp
      by_cases hclosing : ']' ∈ name
      · exact Or.inr (.bracketed hbracketed hclosing)
      · exact Or.inl (.bracketed hbracketed hclosing)
    · rw [parseTrimmed_of_unopened hopened] at hp
      split at hp
      · cases hp
      next hfits =>
        simp only [Bool.or_eq_true, List.isEmpty_iff, List.contains_iff_mem, not_or] at hfits
        obtain rfl := Option.some.inj hp
        exact Or.inl (.bare ⟨hfits.1, htrimmed, hopened⟩ hfits.2)
  · rintro (hspells | hmisspells)
    · obtain ⟨hname, hclosing⟩ | ⟨hbracketed, -⟩ := hspells
      · exact parseTrimmed_of_bare hname hclosing
      · exact parseTrimmed_of_bracketed hbracketed
    · obtain ⟨hbracketed, -⟩ := hmisspells
      exact parseTrimmed_of_bracketed hbracketed

theorem parse_eq_ok {s : String} : parse s = .ok p ↔ parseTrimmed (Text.trimList s.toList) = some p := by
  rw [parse]
  cases parseTrimmed (Text.trimList s.toList) <;> simp

/-! ## Printing -/

/-- What is printed spells the package. -/
theorem spells_spec (hname : IsName p.name.toList) (hclosing : ']' ∉ p.name.toList) (hoptions : p.options ≠ some "") :
    Text.Trimmed p.spec.toList ∧ Spells p.spec.toList p := by
  obtain ⟨name, _ | options⟩ := p
  · have hspells : Spells name.toList (ofSpelled name.toList []) := .bare hname hclosing
    rw [ofSpelled, String.ofList_toList] at hspells
    exact ⟨hname.trimmed, hspells⟩
  · have hlist : (spec ⟨name, some options⟩).toList = name.toList ++ [] ++ '[' :: (options.toList ++ [']']) := by
      simp [spec]
    have hne : options.toList ≠ [] := by simpa using hoptions
    have hspells : Spells _ (ofSpelled name.toList options.toList) :=
      .bracketed ⟨hname, [], by simp, hlist⟩ hclosing
    rw [ofSpelled, if_neg (by simpa using hne), String.ofList_toList, String.ofList_toList] at hspells
    refine ⟨⟨fun c hc => ?_, fun c hc => ?_⟩, hspells⟩
    · rw [hlist, List.append_nil, List.head?_append_of_ne_nil _ hname.ne_nil] at hc
      exact hname.trimmed.head c hc
    · rw [hlist, List.append_nil, ← List.cons_append, ← List.append_assoc, List.getLast?_concat] at hc
      obtain rfl := Option.some.inj hc
      exact not_blank_bracket.2

/-- **What a spec is read as.**  A text is read as a package exactly if it spells it once the outer
blanks are off, or would but for a closing bracket in the name; and a package whose name may stand
in a spec, with options that are not empty if there are any, is what its spec is read as. -/
theorem parse_eq_ok_iff (s : String) (p : Package) :
    (parse s = .ok p ↔ Spells (Text.trimList s.toList) p ∨ Misspells (Text.trimList s.toList) p) ∧
      (IsName p.name.toList → ']' ∉ p.name.toList → p.options ≠ some "" → parse p.spec = .ok p) := by
  constructor
  · rw [parse_eq_ok]
    exact parseTrimmed_eq_some_iff (Text.trimmed_trimList _)
  · intro hname hclosing hoptions
    obtain ⟨htrimmed, hspells⟩ := spells_spec hname hclosing hoptions
    rw [parse_eq_ok, htrimmed.trimList_eq]
    exact (parseTrimmed_eq_some_iff htrimmed).mpr (Or.inl hspells)

/-- Options may hold brackets as they like. -/
theorem parse_eq_ok_iff_brackets :
    (⟨"tikz", some "]["⟩ : Package).spec = "tikz[][]" ∧ parse "tikz[][]" = .ok ⟨"tikz", some "]["⟩ := by
  have htrimmed : Text.Trimmed "tikz".toList := by
    constructor
    · rintro c hc
      obtain rfl : 't' = c := Option.some.inj hc
      rfl
    · rintro c hc
      obtain rfl : 'z' = c := Option.some.inj hc
      rfl
  have hname : IsName "tikz".toList := ⟨by decide, htrimmed, by decide⟩
  exact ⟨by decide, (parse_eq_ok_iff "tikz[][]" ⟨"tikz", some "]["⟩).2 hname (by decide) (by decide)⟩

/-- A closing bracket in the name is let through in front of options, and nowhere else. -/
theorem closing_bracket_accepted :
    parse "a]b[c]" = .ok ⟨"a]b", some "c"⟩ ∧ (∀ p, ¬ Spells (Text.trimList "a]b[c]".toList) p) ∧
      ∀ p, parse "a]b" ≠ .ok p := by
  have hparse : parse "a]b[c]" = .ok ⟨"a]b", some "c"⟩ := by rfl
  refine ⟨hparse, fun p hspells => ?_, fun p hp => ?_⟩
  · have hp : parse "a]b[c]" = .ok p :=
      parse_eq_ok.mpr ((parseTrimmed_eq_some_iff (Text.trimmed_trimList _)).mpr (Or.inl hspells))
    rw [hparse] at hp
    cases hp
    exact hspells.notMem_name (by decide)
  · cases hp

end Galley.Package
