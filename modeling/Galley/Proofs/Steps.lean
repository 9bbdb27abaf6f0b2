/-! # One step after another

An operation fails with its first step that fails, and otherwise goes on from the state that
the step leaves.  This holds of operations on files, of sessions and of loads alike, and is all
that is ever used of their order. -/
namespace Galley

variable {ε σ α β : Type} {op : EStateM ε σ α} {s s' s'' : σ} {a : α} {e : ε}

/-! ## From a step to the whole -/

section
variable {k : α → EStateM ε σ β}

theorem bind_of_ok (h : op s = .ok a s') : (op >>= k) s = k a s' := by
  change EStateM.bind op k s = k a s'
  rw [EStateM.bind, h]

theorem bind_of_error (h : op s = .error e s') : (op >>= k) s = .error e s' := by
  change EStateM.bind op k s = .error e s'
  rw [EStateM.bind, h]

theorem map_of_ok (h : op s = .ok a s') (f : α → β) : (f <$> op) s = .ok (f a) s' := by
  change EStateM.map f op s = _
  rw [EStateM.map, h]

theorem map_of_error (h : op s = .error e s') (f : α → β) : (f <$> op) s = .error e s' := by
  change EStateM.map f op s = _
  rw [EStateM.map, h]

/-! ## From the whole to a step -/

theorem bind_eq_ok {b : β} (h : (op >>= k) s = .ok b s'') : ∃ a s', op s = .ok a s' ∧ k a s' = .ok b s'' := by
  change EStateM.bind op k s = _ at h
  simp only [EStateM.bind] at h
  split at h
  · exact ⟨_, _, ‹_›, h⟩
  · cases h

theorem bind_eq_error (h : (op >>= k) s = .error e s'') :
    op s = .error e s'' ∨ ∃ a s', op s = .ok a s' ∧ k a s' = .error e s'' := by
  change EStateM.bind op k s = _ at h
  simp only [EStateM.bind] at h
  split at h
  · exact Or.inr ⟨_, _, ‹_›, h⟩
  · cases h
    exact Or.inl ‹_›

theorem map_eq_ok {f : α → β} {b : β} (h : (f <$> op) s = .ok b s') : ∃ a, op s = .ok a s' ∧ f a = b := by
  change EStateM.map f op s = _ at h
  simp only [EStateM.map] at h
  split at h
  · cases h
    exact ⟨_, ‹_›, rfl⟩
  · cases h

theorem map_eq_error {f : α → β} (h : (f <$> op) s = .error e s') : op s = .error e s' := by
  change EStateM.map f op s = _ at h
  simp only [EStateM.map] at h
  split at h
  · cases h
  · cases h
    assumption

end
end Galley
