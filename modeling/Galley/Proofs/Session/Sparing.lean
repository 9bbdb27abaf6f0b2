import Galley.Proofs.Session.History

/-! # What an action spares

Some parts of a session are out of the guest's reach: neither the guest nor the memory nor the
suspension is part of them, and a file that is put into the table does not show in them
(`Session.Aside`).  An action `Spares` such a part if it leaves it as it was, whether it succeeds
or fails.  Opens spare all of them (`Session.spares_openNamed`). -/
namespace Galley

variable {σ α β γ : Type}

namespace Session
open Serving

/-- A part of a session that guest, memory, suspension and open files have no part in. -/
structure Aside (view : Session σ → γ) : Prop where
  guest : ∀ (s : Session σ) guest memory suspension, view { s with guest, memory, suspension } = view s
  push : ∀ (s : Session σ) (f : OpenFile), view { s with desk := (s.desk.push f).2 } = view s

/-- Whether it succeeds or fails, the action leaves this to be seen of the session. -/
def Spares (view : Session σ → γ) (seen : γ) (r : EStateM.Result Stop (Session σ) α) : Prop := view (left r) = seen

variable {view : Session σ → γ} {seen : γ} {h : Host σ} {s : Session σ}

theorem Spares.bind {op : Serving σ α} {k : α → Serving σ β} (hop : Spares view seen (op s))
    (hk : ∀ a {s : Session σ}, view s = seen → Spares view seen (k a s)) : Spares view seen ((op >>= k) s) := by
  refine left_bind (P := fun t => view t = seen) hop fun a t ht => hk a ?_
  rwa [Spares, ht] at hop

theorem Spares.map {op : Serving σ α} (hop : Spares view seen (op s)) (f : α → β) :
    Spares view seen ((f <$> op) s) := by
  cases hs : op s with
  | ok a t =>
    rw [map_of_ok hs]
    rwa [hs] at hop
  | error e t =>
    rw [map_of_error hs]
    rwa [hs] at hop

theorem spares_query (hs : view s = seen) (ask : Desk → Except FileError α) : Spares view seen (query ask s) := by
  unfold query
  split <;> exact hs

theorem spares_look (hs : view s = seen) (read : Memory → Except Memory.Fault α) :
    Spares view seen (look read s) := by
  unfold look
  split <;> exact hs

theorem spares_enter (hview : Aside view) (hs : view s = seen) (entry : Entry) :
    Spares view seen (enter h entry s) := by
  simp only [enter]
  split
  · split
    · exact (hview.guest s _ _ _).trans hs
    · exact hs
  · exact hs

theorem spares_transition (hview : Aside view) (hs : view s = seen)
    (move : Suspension → Except Suspension.Refused (α × Suspension)) : Spares view seen (transition move s) := by
  simp only [transition]
  split
  · exact (hview.guest s _ _ _).trans hs
  · exact hs

theorem spares_wakeIfSleeping (hview : Aside view) (hs : view s = seen) :
    Spares view seen (wakeIfSleeping h s) := by
  by_cases hphase : s.suspension.phase = .sleeping
  · rw [wakeIfSleeping_of_asleep hphase]
    refine (spares_enter hview hs _).bind fun _ t ht => ?_
    exact (spares_transition hview ht _).bind fun _ u hu => hu
  · rw [wakeIfSleeping_of_awake hphase]
    exact hs

theorem spares_suspend (hview : Aside view) (hs : view s = seen) (name : String) :
    Spares view seen (suspend h name s) := by
  have hprepare : Spares view seen (onSeat (Desk.Operation.access h.control.prepare) s) := by
    simp only [onSeat, Desk.Operation.access]
    cases h.control.prepare s.memory <;> exact (hview.guest s _ _ _).trans hs
  refine hprepare.bind fun _ t ht => ?_
  exact (spares_transition hview ht _).bind fun _ u hu => spares_enter hview hu _

/-- **An open spares all that the guest cannot reach.** -/
theorem spares_openNamed (hview : Aside view) (hs : view s = seen) (mode : Mode) (length pointer : Int32) :
    Spares view seen (openNamed h mode length pointer s) := by
  refine (spares_wakeIfSleeping hview hs).bind fun resuming t ht => ?_
  refine (spares_look ht _).bind fun raw u hu => ?_
  rcases u.desk.openRaw_cases raw mode resuming with ⟨f, hpush⟩ | ⟨name, -, hfetch, -⟩
  · simp only [modifyGet_bind, hpush]
    exact (hview.push u f).trans hu
  · simp only [modifyGet_bind, hfetch]
    exact (spares_suspend hview hu name).bind fun _ v hv => hv

end Session
end Galley
