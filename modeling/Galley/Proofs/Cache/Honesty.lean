import Galley.Proofs.Cache.Provenance
import Mathlib.Data.List.Induction

/-! # Backings that give back only what they were handed -/
namespace Galley.Backing

variable {σ : Type} {b : Backing σ} {kept : σ}

/-- A backing is honest if what a load may find is empty at first, stays when a load is
made, and grows by what is saved and nothing else. -/
theorem Honest.of_held (held : σ → Fingerprint → String → Prop) (hempty : ∀ f markup, ¬ held kept f markup)
    (hfound : ∀ {s f markup}, (b.load f s).1 = some markup → held s f markup)
    (hload : ∀ {s f g markup}, held (b.load f s).2 g markup → held s g markup)
    (hsave : ∀ {s f y g markup}, held (b.save f y s) g markup → held s g markup ∨ (g = f ∧ markup = y)) :
    b.Honest kept := by
  have hheld (accesses : List Access) (f : Fingerprint) (markup : String)
      (h : held (b.reached kept accesses) f markup) : .save f markup ∈ accesses := by
    induction accesses using List.reverseRecOn with
    | nil => exact absurd h (hempty f markup)
    | append_singleton accesses a ih =>
      rw [reached_concat] at h
      cases a with
      | load g => exact List.mem_append_left _ (ih (hload h))
      | save g y =>
        obtain h | ⟨rfl, rfl⟩ := hsave h
        · exact List.mem_append_left _ (ih h)
        · exact List.mem_append_right _ (List.mem_singleton_self _)
  intro accesses f markup h
  exact hheld accesses f markup (hfound h)

theorem honest_none : none.Honest () :=
  .of_held (fun _ _ _ => False) (fun _ _ h => h) nofun id (fun h => h.elim)

theorem honest_shelf (failLoad failSave : Bool) : (shelf failLoad failSave).Honest ∅ := by
  refine .of_held (fun s f markup => s[f]? = some markup) ?_ ?_ ?_ ?_
  · intro f markup h
    simp at h
  · intro s f markup h
    simp only [shelf] at h
    split at h
    · cases h
    · exact h
  · exact id
  · intro s f y g markup h
    simp only [shelf] at h
    split at h
    · exact Or.inl h
    · rw [Std.HashMap.getElem?_insert] at h
      split at h
      next hfg => exact Or.inr ⟨(beq_iff_eq.mp hfg).symm, (Option.some.inj h).symm⟩
      next => exact Or.inl h

/-- A backing of which the accesses that `fails` numbers come to nothing. -/
def failing (b : Backing σ) (fails : Nat → Bool) : Backing (Nat × σ) :=
  { load := fun f s =>
      if fails s.1 then (Option.none, (s.1 + 1, s.2))
      else ((b.load f s.2).1, (s.1 + 1, (b.load f s.2).2))
    save := fun f markup s => (s.1 + 1, if fails s.1 then s.2 else b.save f markup s.2) }

theorem access_failing (b : Backing σ) (fails : Nat → Bool) (s : Nat × σ) (a : Access) :
    (b.failing fails).access s a = (s.1 + 1, if fails s.1 then s.2 else b.access s.2 a) := by
  cases a with
  | load f =>
    simp only [access, Backing.failing]
    split <;> rfl
  | save f markup => rfl

/-- Failures, whichever and however many, do not make a backing dishonest. -/
theorem Honest.failing (h : b.Honest kept) (fails : Nat → Bool) : (b.failing fails).Honest (0, kept) := by
  have hreached (accesses : List Access) :
      ∃ made, (∀ a ∈ made, a ∈ accesses) ∧ ((b.failing fails).reached (0, kept) accesses).2 = b.reached kept made := by
    induction accesses using List.reverseRecOn with
    | nil => exact ⟨[], nofun, rfl⟩
    | append_singleton accesses a ih =>
      obtain ⟨made, hsub, hstate⟩ := ih
      have hkeep := fun a' h => List.mem_append_left [a] (hsub a' h)
      rw [reached_concat, access_failing]
      by_cases hfail : fails ((b.failing fails).reached (0, kept) accesses).1
      · exact ⟨made, hkeep, by rw [if_pos hfail, hstate]⟩
      · refine ⟨made ++ [a], ?_, by rw [if_neg hfail, reached_concat, hstate]⟩
        intro a' h'
        obtain h' | h' := List.mem_append.mp h'
        · exact hkeep a' h'
        · exact List.mem_append_right _ h'
  intro accesses f markup hload
  obtain ⟨made, hsub, hstate⟩ := hreached accesses
  refine hsub _ (h made f markup ?_)
  rw [← hstate]
  simp only [Backing.failing] at hload
  split at hload
  · cases hload
  · exact hload

end Galley.Backing
