import Galley.Text.Blank
import Mathlib.Data.List.DropRight

/-! # Trimming

A text is blanks, then a part with no blank at either end, then blanks again, and trimming it
gives that part (`exists_eq_append_trimList`, `trimList_append_of_trimmed`).  So blanks put
around a text do not show once it is trimmed (`trimList_append`). -/
namespace Galley.Text

/-! ## One end -/

section
variable {α : Type} {p : α → Bool}

/-- Dropping at the end is Mathlib's `rdropWhile`, under which its lemmas are found. -/
theorem dropTrailing_eq_rdropWhile (p : α → Bool) (l : List α) : dropTrailing p l = l.rdropWhile p := rfl

theorem dropTrailing_append {l q : List α} (hq : ∀ x ∈ q, p x) : dropTrailing p (l ++ q) = dropTrailing p l := by
  rw [dropTrailing, List.reverse_append, List.dropWhile_append_of_pos (by simpa using hq), dropTrailing]

theorem dropTrailing_eq_self {l : List α} (h : ∀ x ∈ l.getLast?, p x = false) : dropTrailing p l = l := by
  rw [dropTrailing_eq_rdropWhile, List.rdropWhile_eq_self_iff]
  intro hne
  rw [h _ (List.getLast?_eq_some_getLast hne)]
  exact Bool.false_ne_true

/-- Padding that is put behind a text is taken off again. -/
theorem dropTrailing_append_eq_self {l q : List α} (h : ∀ x ∈ l.getLast?, p x = false) (hq : ∀ x ∈ q, p x) :
    dropTrailing p (l ++ q) = l := by
  rw [dropTrailing_append hq, dropTrailing_eq_self h]

theorem dropWhile_eq_self {l : List α} (h : ∀ x ∈ l.head?, p x = false) : l.dropWhile p = l := by
  cases l with
  | nil => rfl
  | cons x l =>
    have hx : p x = false := h x rfl
    rw [List.dropWhile_cons, if_neg (by rw [hx]; exact Bool.false_ne_true)]

theorem dropTrailing_cons (x : α) (l : List α) :
    dropTrailing p (x :: l) =
      if dropTrailing p l = [] then if p x then [] else [x] else x :: dropTrailing p l := by
  simp only [dropTrailing, List.reverse_cons, List.dropWhile_append, List.isEmpty_iff, List.reverse_eq_nil_iff]
  split
  · cases hx : p x <;> simp [hx]
  · rw [List.reverse_append, List.reverse_singleton, List.singleton_append]

/-- What is dropped ends at the last element that stays. -/
theorem dropTrailing_append_cons {x : α} (l q : List α) (hx : p x = false) :
    dropTrailing p (l ++ x :: q) = l ++ x :: dropTrailing p q := by
  induction l with
  | nil =>
    rw [List.nil_append, List.nil_append, dropTrailing_cons, hx]
    split
    · rw [‹dropTrailing p q = []›]
      rfl
    · rfl
  | cons y l ih => rw [List.cons_append, dropTrailing_cons, ih, if_neg (by simp), List.cons_append]

theorem head?_dropTrailing {l : List α} (h : dropTrailing p l ≠ []) : (dropTrailing p l).head? = l.head? := by
  obtain ⟨q, hq⟩ : dropTrailing p l <+: l := List.rdropWhile_prefix p l
  conv_rhs => rw [← hq]
  exact (List.head?_append_of_ne_nil _ h).symm

end

/-! ## Both ends -/

/-- There is no blank at either end. -/
structure Trimmed (cs : List Char) : Prop where
  head : ∀ c ∈ cs.head?, isBlank c = false
  last : ∀ c ∈ cs.getLast?, isBlank c = false

theorem trimmed_trimList (cs : List Char) : Trimmed (trimList cs) where
  head c hc := by
    have hne : trimList cs ≠ [] := by
      intro hnil
      rw [hnil] at hc
      cases hc
    rw [trimList, head?_dropTrailing hne] at hc
    have hdropped := List.head?_dropWhile_not isBlank cs
    rw [hc] at hdropped
    simpa using hdropped
  last c hc := by
    have hne : trimList cs ≠ [] := by
      intro hnil
      rw [hnil] at hc
      cases hc
    rw [List.getLast?_eq_some_getLast hne, Option.mem_some_iff] at hc
    have hlast := List.rdropWhile_last_not isBlank (cs.dropWhile isBlank) hne
    rw [Bool.not_eq_true] at hlast
    rw [← hc]
    exact hlast

/-- A text is what trimming leaves of it between blanks. -/
theorem exists_eq_append_trimList (cs : List Char) :
    ∃ p q, cs = p ++ trimList cs ++ q ∧ (∀ c ∈ p, isBlank c) ∧ ∀ c ∈ q, isBlank c := by
  refine ⟨cs.takeWhile isBlank, (cs.dropWhile isBlank).rtakeWhile isBlank, ?_, ?_, ?_⟩
  · rw [trimList, dropTrailing_eq_rdropWhile, List.append_assoc, List.rdropWhile_append_rtakeWhile,
      List.takeWhile_append_dropWhile]
  · exact fun c hc => List.mem_takeWhile_imp hc
  · exact fun c hc => List.mem_rtakeWhile_imp hc

theorem trimList_eq_nil {cs : List Char} (h : ∀ c ∈ cs, isBlank c) : trimList cs = [] := by
  rw [trimList, List.dropWhile_eq_nil_iff.mpr h]
  rfl

/-- Trimming gives the part that has no blank at either end. -/
theorem trimList_append_of_trimmed {p m q : List Char} (hm : Trimmed m) (hp : ∀ c ∈ p, isBlank c)
    (hq : ∀ c ∈ q, isBlank c) : trimList (p ++ m ++ q) = m := by
  cases m with
  | nil =>
    refine trimList_eq_nil fun c hc => ?_
    rw [List.append_nil] at hc
    exact (List.mem_append.mp hc).elim (hp c) (hq c)
  | cons x m =>
    have hdrop : (x :: (m ++ q)).dropWhile isBlank = x :: (m ++ q) := dropWhile_eq_self hm.head
    rw [trimList, List.append_assoc, List.dropWhile_append_of_pos hp, List.cons_append, hdrop]
    exact dropTrailing_append_eq_self hm.last hq

theorem Trimmed.trimList_eq {cs : List Char} (h : Trimmed cs) : trimList cs = cs := by
  have htrim := trimList_append_of_trimmed (p := []) (q := []) h (by simp) (by simp)
  rwa [List.nil_append, List.append_nil] at htrim

/-- **Blanks around a text do not show once it is trimmed.** -/
theorem trimList_append {p q : List Char} (cs : List Char) (hp : ∀ c ∈ p, isBlank c) (hq : ∀ c ∈ q, isBlank c) :
    trimList (p ++ cs ++ q) = trimList cs := by
  obtain ⟨p', q', hcs, hp', hq'⟩ := exists_eq_append_trimList cs
  have hparts : p ++ cs ++ q = (p ++ p') ++ trimList cs ++ (q' ++ q) := by
    conv_lhs => rw [hcs]
    simp only [List.append_assoc]
  rw [hparts]
  refine trimList_append_of_trimmed (trimmed_trimList cs) ?_ ?_
  · exact fun c hc => (List.mem_append.mp hc).elim (hp c) (hp' c)
  · exact fun c hc => (List.mem_append.mp hc).elim (hq' c) (hq c)

end Galley.Text
