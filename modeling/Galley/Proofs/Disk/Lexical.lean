import Galley.Disk
import Mathlib.Data.Fintype.EquivFin
import Mathlib.Data.List.Infix

/-! # Where a path leads by its text

A path is followed by its text alone (`Disk.lexical`): `..` takes a name off, `.` does nothing,
and what is on the disk does not count.  Where the disk lets a path be followed at all it leads
to the same place (`Disk.locate_eq_ok`).

A store below a directory joins its names to the path of that directory.  Such a path stays in
the directory exactly if its steps never lead above their start (`Disk.staysBelow`), whatever
the directory is (`Disk.encloses_join_iff`). -/
namespace Galley.Disk

/-- Follows steps by their text from a place, given as a reversed list of names. -/
def follow (place : List String) : List String → List String
  | [] => place
  | step :: rest =>
    if step == "." then follow place rest
    else if step == ".." then follow (place.drop 1) rest
    else follow (step :: place) rest

/-- The names that a path leads along by its text, from the root. -/
def lexical (d : Disk) (path : String) : List String := (follow (d.start path).reverse (namesOf path)).reverse

/-- The path leads to the directory or to a place below it. -/
def Encloses (d : Disk) (directory path : String) : Prop := d.lexical directory <+: d.lexical path

/-- Steps from so many levels below a directory never lead above it. -/
def staysBelow (depth : Nat) : List String → Bool
  | [] => true
  | step :: rest =>
    if step == "." then staysBelow depth rest
    else if step == ".." then 0 < depth && staysBelow (depth - 1) rest
    else staysBelow (depth + 1) rest

/-- A step that leads to the entry of that name. -/
def IsPlain (step : String) : Prop := step ≠ "." ∧ step ≠ ".."

instance (step : String) : Decidable (IsPlain step) := inferInstanceAs (Decidable (step ≠ "." ∧ step ≠ ".."))

variable {d : Disk} {path directory step : String} {place steps rest : List String} {depth : Nat}

/-! ## Steps -/

theorem follow_plain (h : IsPlain step) : follow place (step :: rest) = follow (step :: place) rest := by
  rw [follow, if_neg (by simpa using h.1), if_neg (by simpa using h.2)]

theorem staysBelow_up : staysBelow depth (".." :: rest) = (0 < depth && staysBelow (depth - 1) rest) := rfl

theorem staysBelow_plain (h : IsPlain step) : staysBelow depth (step :: rest) = staysBelow (depth + 1) rest := by
  rw [staysBelow, if_neg (by simpa using h.1), if_neg (by simpa using h.2)]

/-- A step is one of three kinds. -/
theorem step_cases (step : String) : step = "." ∨ step = ".." ∨ IsPlain step := by
  by_cases hdot : step = "."
  · exact Or.inl hdot
  · by_cases hup : step = ".."
    · exact Or.inr (Or.inl hup)
    · exact Or.inr (Or.inr ⟨hdot, hup⟩)

theorem follow_append (place steps rest : List String) :
    follow place (steps ++ rest) = follow (follow place steps) rest := by
  induction steps generalizing place with
  | nil => rfl
  | cons step steps ih =>
    rw [List.cons_append]
    rcases step_cases step with rfl | rfl | hplain
    · exact ih place
    · exact ih (place.drop 1)
    · rw [follow_plain hplain, follow_plain hplain, ih]

/-- A plain step at the end leads nowhere above. -/
theorem staysBelow_concat (h : IsPlain step) (depth : Nat) (steps : List String) :
    staysBelow depth (steps ++ [step]) = staysBelow depth steps := by
  induction steps generalizing depth with
  | nil => exact staysBelow_plain h
  | cons first steps ih =>
    rw [List.cons_append]
    rcases step_cases first with rfl | rfl | hplain
    · exact ih depth
    · rw [staysBelow_up, staysBelow_up, ih (depth - 1)]
    · rw [staysBelow_plain hplain, staysBelow_plain hplain, ih]

/-! ## What the disk makes of a path -/

/-- Steps that the disk lets be followed lead where their text does. -/
theorem walk_eq_ok {t : FileTree} {names : List String} (h : walk t place steps = .ok names) :
    names = (follow place steps).reverse := by
  fun_induction walk t place steps with
  | case1 place => exact (Except.ok.inj h).symm
  | case3 place step rest entries hnode hdot ih =>
    rw [follow, if_pos hdot]
    exact ih h
  | case4 place step rest entries hnode hdot hup ih =>
    rw [follow, if_neg hdot, if_pos hup]
    exact ih h
  | case6 place step rest entries hnode hdot hup hsize ih =>
    rw [follow, if_neg hdot, if_neg hup]
    exact ih h
  | case2 | case5 | case7 => cases h

theorem follow_steps (place : List String) (path : String) :
    follow place (Disk.steps path) = follow place (namesOf path) := by
  rw [Disk.steps]
  split
  · rw [follow_append]
    rfl
  · rw [List.append_nil]

theorem checked_eq_ok_iff {path' : String} : checked path = .ok path' ↔
    path' = path ∧ '\x00' ∉ path.toList ∧ path.utf8ByteSize ≤ maxPath ∧ path ≠ "" := by
  rw [checked, String.contains_char_eq]
  constructor
  · intro h
    split at h
    · cases h
    next hnul =>
      split at h
      · cases h
      next hsize =>
        split at h
        · cases h
        next hempty =>
          refine ⟨(Except.ok.inj h).symm, of_decide_eq_false (Bool.not_eq_true _ ▸ hnul), Nat.not_lt.mp hsize, ?_⟩
          exact fun hnone => hempty (String.isEmpty_iff.mpr hnone)
  · rintro ⟨rfl, hnul, hsize, hne⟩
    rw [if_neg (by simpa using hnul), if_neg (Nat.not_lt.mpr hsize), if_neg (by simpa using hne)]

theorem locate_of_checked (h : checked path = .ok path) (d : Disk) :
    d.locate path = resolved <$> walk d.root (d.start path).reverse (Disk.steps path) := by
  rw [locate, h]
  rfl

theorem read_of_locate {names : List String} {content : ByteArray} (h : d.locate path = .ok names)
    (hnode : d.root.node? names = some (.file content)) : d.read path = .ok content := by
  have hfind : d.find path = .ok (.file content) := by
    rw [find, h]
    simp only [bind, Except.bind, hnode]
  rw [Disk.read, hfind]
  rfl

/-- **A path that can be followed leads where its text does**, or to the stream that has this for
another name. -/
theorem locate_eq_ok {names : List String} (h : d.locate path = .ok names) : names = resolved (d.lexical path) := by
  cases hchecked : checked path with
  | error e =>
    rw [locate, hchecked] at h
    cases h
  | ok path' =>
    obtain ⟨rfl, -⟩ := checked_eq_ok_iff.mp hchecked
    rw [locate_of_checked hchecked] at h
    cases hplace : walk d.root (d.start path').reverse (Disk.steps path') with
    | error e =>
      rw [hplace] at h
      cases h
    | ok place =>
      rw [hplace] at h
      rw [lexical, ← follow_steps, ← walk_eq_ok hplace]
      exact (Except.ok.inj h).symm

/-! ## Steps that stay below a place -/

/-- Steps that never lead above their start keep what is above it. -/
theorem exists_follow_of_staysBelow (above place : List String) (h : staysBelow above.length steps = true) :
    ∃ below, follow (above ++ place) steps = below ++ place := by
  induction steps generalizing above with
  | nil => exact ⟨above, rfl⟩
  | cons step steps ih =>
    rcases step_cases step with rfl | rfl | hplain
    · exact ih above h
    · cases above with
      | nil => cases h
      | cons _ above => exact ih above h
    · rw [staysBelow_plain hplain] at h
      rw [follow_plain hplain]
      exact ih (step :: above) h

theorem not_mem_follow {name : String} (hplace : name ∉ place) (hsteps : name ∉ steps) :
    name ∉ follow place steps := by
  induction steps generalizing place with
  | nil => exact hplace
  | cons step steps ih =>
    rw [List.mem_cons, not_or] at hsteps
    rcases step_cases step with rfl | rfl | hplain
    · exact ih hplace hsteps.2
    · exact ih (fun hmem => hplace (List.mem_of_mem_drop hmem)) hsteps.2
    · rw [follow_plain hplain]
      refine ih ?_ hsteps.2
      rw [List.mem_cons, not_or]
      exact ⟨hsteps.1, hplace⟩

/-- Steps that lead above their start lose the name of the directory that they started in, unless
they name it again. -/
theorem not_mem_follow_of_leaves (above : List String) {name : String} (h : staysBelow above.length steps = false)
    (habove : name ∉ above) (hsteps : name ∉ steps) : name ∉ follow (above ++ [name]) steps := by
  induction steps generalizing above with
  | nil => cases h
  | cons step steps ih =>
    rw [List.mem_cons, not_or] at hsteps
    rcases step_cases step with rfl | rfl | hplain
    · exact ih above h habove hsteps.2
    · cases above with
      | nil =>
        change name ∉ follow [] steps
        exact not_mem_follow List.not_mem_nil hsteps.2
      | cons _ above => exact ih above h (fun hmem => habove (List.mem_cons_of_mem _ hmem)) hsteps.2
    · rw [staysBelow_plain hplain] at h
      rw [follow_plain hplain]
      refine ih (step :: above) h ?_ hsteps.2
      rw [List.mem_cons, not_or]
      exact ⟨hsteps.1, habove⟩

/-! ## Names joined to a directory -/

theorem namesOf_append_slash (front back : String) :
    namesOf (front ++ "/" ++ back) = namesOf front ++ namesOf back := by
  have hlist : (front ++ "/" ++ back).toList = front.toList ++ '/' :: back.toList := by simp
  rw [namesOf, hlist, List.splitOn_eq_splitOnP, List.splitOnP_append_cons front.toList back.toList rfl, List.map_append,
    List.filter_append]
  rfl

/-- A path that starts at the working directory, or wherever it is joined to. -/
def IsRelative (path : String) : Prop := path.toList.head? ≠ some '/'

instance (path : String) : Decidable (IsRelative path) := inferInstanceAs (Decidable (path.toList.head? ≠ some '/'))

theorem namesOf_join (h : IsRelative path) (directory : String) :
    namesOf (join directory path) = namesOf directory ++ namesOf path := by
  have hrelative : (path.toList.head? == some '/') = false := beq_false_of_ne h
  rw [join, hrelative, Bool.false_or]
  split
  next hempty =>
    rw [String.isEmpty_iff.mp hempty]
    rfl
  · split
    next hslash =>
      -- the slash at the end of the directory stands between the two
      obtain ⟨front, hfront⟩ : ∃ front, directory = front ++ "/" := by
        obtain ⟨front, hfront⟩ := List.getLast?_eq_some_iff.mp (beq_iff_eq.mp hslash)
        exact ⟨.ofList front, String.toList_inj.mp (by simp [hfront])⟩
      have hdirectory : namesOf directory = namesOf front := by
        have hjoined := namesOf_append_slash front ""
        rw [String.append_empty, show namesOf "" = [] from rfl, List.append_nil] at hjoined
        rw [hfront, hjoined]
      rw [hdirectory, hfront, namesOf_append_slash]
    next => exact namesOf_append_slash directory path

theorem start_join (h : IsRelative path) (d : Disk) (directory : String) :
    d.start (join directory path) = d.start directory := by
  have hrelative : (path.toList.head? == some '/') = false := beq_false_of_ne h
  rw [join, hrelative, Bool.false_or]
  split
  next hempty =>
    rw [String.isEmpty_iff.mp hempty, start, start, hrelative]
    rfl
  next hne =>
    obtain ⟨c, cs, hcs⟩ : ∃ c cs, directory.toList = c :: cs := by
      apply List.exists_cons_of_ne_nil
      intro hnil
      exact hne (String.isEmpty_iff.mpr (String.toList_inj.mp hnil))
    split
    · simp [start, hcs]
    · simp [start, hcs]

/-- A path that is joined to a directory goes on from there. -/
theorem lexical_join (h : IsRelative path) (d : Disk) (directory : String) :
    d.lexical (join directory path) = (follow (d.lexical directory).reverse (namesOf path)).reverse := by
  rw [lexical, lexical, start_join h, namesOf_join h, follow_append, List.reverse_reverse]

/-- A system with one directory, in which it works. -/
def workingIn (directory : String) : Disk where
  root := .empty
  here := [directory]

/-- **A path stays in every directory that it is joined to exactly if its steps never lead above
their start.** -/
theorem encloses_join_iff (h : IsRelative path) :
    (∀ d directory, Encloses d directory (join directory path)) ↔ staysBelow 0 (namesOf path) = true := by
  constructor
  · intro hencloses
    by_contra hleaves
    -- a directory whose name is not in the path is lost when the path leads above it
    obtain ⟨name, hname⟩ := Infinite.exists_notMem_finset (namesOf path).toFinset
    rw [List.mem_toFinset] at hname
    have hinside := hencloses (workingIn name) "."
    have hhere : (workingIn name).lexical "." = [name] := rfl
    rw [Encloses, lexical_join h, hhere] at hinside
    have hmem : name ∈ follow ([] ++ [name]) (namesOf path) :=
      List.mem_reverse.mp (hinside.mem (List.mem_singleton_self name))
    exact not_mem_follow_of_leaves [] (Bool.eq_false_iff.mpr hleaves) List.not_mem_nil hname hmem
  · intro hstays d directory
    obtain ⟨below, hbelow⟩ := exists_follow_of_staysBelow [] (d.lexical directory).reverse hstays
    rw [List.nil_append] at hbelow
    rw [Encloses, lexical_join h, hbelow, List.reverse_append, List.reverse_reverse]
    exact List.prefix_append _ _

end Galley.Disk
