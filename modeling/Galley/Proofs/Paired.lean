import Galley.Memory.Control

/-! # Two runs side by side

Two results are `Paired` by a relation of states if both are values or both are errors,
the same ones, and the states they leave are related.  Operations that are paired from
related states may be put one after the other (`Paired.bind`), so an argument about two
runs follows the text of the program. -/
namespace Galley

variable {ε σ τ α β : Type} {R : σ → τ → Prop}

/-- Two results with the same value or the same error, in related states. -/
inductive Paired (R : σ → τ → Prop) : EStateM.Result ε σ α → EStateM.Result ε τ α → Prop where
  | ok {a : α} {s : σ} {t : τ} (h : R s t) : Paired R (.ok a s) (.ok a t)
  | error {e : ε} {s : σ} {t : τ} (h : R s t) : Paired R (.error e s) (.error e t)

namespace Paired

theorem bind {op : EStateM ε σ α} {op' : EStateM ε τ α} {k : α → EStateM ε σ β} {k' : α → EStateM ε τ β}
    {s : σ} {t : τ} (h : Paired R (op s) (op' t))
    (hk : ∀ a {s t}, R s t → Paired R (k a s) (k' a t)) : Paired R ((op >>= k) s) ((op' >>= k') t) := by
  change Paired R (EStateM.bind op k s) (EStateM.bind op' k' t)
  simp only [EStateM.bind]
  generalize op s = r at h ⊢
  generalize op' t = r' at h ⊢
  cases h with
  | ok h => exact hk _ h
  | error h => exact .error h

theorem map {op : EStateM ε σ α} {op' : EStateM ε τ α} {s : σ} {t : τ} (h : Paired R (op s) (op' t)) (f : α → β) :
    Paired R ((f <$> op) s) ((f <$> op') t) := by
  change Paired R (EStateM.map f op s) (EStateM.map f op' t)
  simp only [EStateM.map]
  generalize op s = r at h ⊢
  generalize op' t = r' at h ⊢
  cases h with
  | ok h => exact .ok h
  | error h => exact .error h

theorem throw {s : σ} {t : τ} (h : R s t) (e : ε) :
    Paired R ((MonadExcept.throw e : EStateM ε σ α) s) ((MonadExcept.throw e : EStateM ε τ α) t) := .error h

end Paired
end Galley
