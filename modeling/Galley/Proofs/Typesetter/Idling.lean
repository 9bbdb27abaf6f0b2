import Galley.Proofs.Session.Rewinding
import Galley.Proofs.Typesetter.Fetching
import Galley.Proofs.Typesetter.Showing

/-! # Runs end with nothing outstanding

The suspension controller is sound under any calls, and a session calls it in no
other way.  So a run that comes to its end leaves it idle, with as many
suspensions counted as names were handed to the loader, and these handovers
account for all that the store was asked for on the way; and a guest that is
rewound and does not come back to an open ends its run with an error
(`suspension_sound`). -/
namespace Galley

variable {σ : Type}

namespace Session
open Serving

/-- What holds of the runs of a session. -/
structure Controlled (h : Host σ) (s : Session σ) : Prop where
  /-- At any moment the suspension is what some calls of its controller make of the first one. -/
  along : ∀ {s₁ l turn s'}, enter h .main s = .ok () s₁ → Passes h .guest s₁ l turn s' →
    ∃ attempts, s'.suspension = Suspension.initial.after attempts
  /-- At the end it is idle, and has counted the names that were handed over; their handovers
  lead from the names asked for before to those asked for now. -/
  idle : ∀ {budget s'}, run h budget s = .ok () s' →
    s'.suspension.isIdle ∧ s'.suspension.count = (runLog h budget s).countP Notice.isHanded ∧
      Chained h.loader s.asked (runLog h budget s) s'.asked
  /-- A guest that leaves its main function after a rewind before an open has returned ends the
  run with an error: the lost rewind, or the end of a budget that does not go that far. -/
  lost : ∀ {s₁ l s'}, enter h .main s = .ok () s₁ → Passes h .guest s₁ l .host s' → Rewound l →
    ∃ cost, (∀ budget > cost, run h budget s = .error .lostRewind s') ∧
      ∀ budget ≤ cost, ∃ t, run h budget s = .error .outOfFuel t

theorem run_of_enter {h : Host σ} {s s₁ : Session σ} (henter : enter h .main s = .ok () s₁) (budget : Nat) :
    run h budget s = runTurns h budget .guest s₁ := by
  rw [run_eq, henter]

theorem controlled (h : Host σ) {s : Session σ} (hs : s.suspension = .initial) : Controlled h s where
  along henter hpasses := by
    obtain ⟨guest, rfl⟩ := enter_cases henter
    exact exists_after_of_passes (s := { s with guest }) hs hpasses
  idle {budget s'} hrun := by
    refine ⟨?_, count_of_run hs hrun, chained_of_run hs hrun⟩
    cases henter : enter h .main s with
    | error cause t =>
      rw [run_eq, henter] at hrun
      cases hrun
    | ok u s₁ =>
      rw [run_of_enter henter] at hrun
      obtain ⟨guest, rfl⟩ := enter_cases henter
      exact isIdle_of_runTurns (s := { s with guest }) hs hrun
  lost henter hpasses hrewound := by
    simp only [run_of_enter henter]
    exact lost_of_passes hpasses hrewound

end Session

namespace Typesetter
open Session Program

/-! ## A program that loses its rewind -/

/-- The program that opens the file without a name, and leaves when it is rewound. -/
def forgetful : Typesetter State :=
  { showing 0 with engine := { Program.showing 0 with refusesRewind := true }.engine }

theorem canCall_forgetful (e : Export) : forgetful.host.canCall (forgetful.host.guest.callsOn e) = true :=
  canCall_showing 0 e

theorem move_forgetful (m : Memory) :
    forgetful.host.guest.step .initial m =
      ⟨{ State.initial with pending := .await (Fin.last 15) }, m, .call (.reset 0 0)⟩ := rfl

/-- It is about to open a file that is not known. -/
theorem missing_forgetful : Missing forgetful.host (atMain blankDesk) 0 0 .empty "" where
  move := congrArg Action.move (move_forgetful _)
  read := Memory.read_nothing _
  fetch := Desk.open_of_not_knows not_knows_blankDesk
  unknown := not_knows_blankDesk

theorem runs_forgetful : Runs forgetful.host (atMain blankDesk) where
  running := rfl
  pending := rfl
  room := (runs_showing 0 blankDesk).room

/-- Its three turns: it misses the file, the host fetches it, and it leaves. -/
theorem passes_forgetful :
    ∃ l s', Passes forgetful.host .guest (atMain blankDesk) l .host s' ∧ Rewound l :=
  missing_forgetful.passes_of_leaving runs_forgetful rfl canCall_forgetful rfl rfl rfl rfl rfl (fun _ => rfl)

/-! ## The controller and its runs -/

/-- **The suspension controller is sound in every order of calls,** legal or not: the depth is
the number of suspensions begun less the number of wakes, zero while the guest runs and one
otherwise; a name is pending exactly while the guest unwinds, the last one begun with, and
sleeping gives it; what is refused changes nothing.  Hence whatever the guest does, a run that
ends without an error leaves the controller idle with as many suspensions counted as fetches
made, and these fetches are all that the store was asked for on the way, also when a request is
typeset; and a guest that comes back from a rewind without an open ends its run with an
error. -/
theorem suspension_sound :
    (∀ attempts, Suspension.Sound (Suspension.initial.accepted attempts) (Suspension.initial.after attempts)) ∧
      (∀ (s s' : Session σ) {a : Suspension.Attempt} {cause : Stop},
        Serving.transition (·.attempt a) s = .error cause s' →
        s' = s ∧ cause = .refused ⟨a.transition, s.suspension.phase⟩) ∧
      (∀ (h : Host σ) (s : Session σ), s.suspension = .initial → Controlled h s) ∧
      ∀ (t : Typesetter σ) (r : Request) {desk : Desk} {asked : Array String} {s s' : Session σ},
        t.setOut r #[] = .ok desk asked →
        Session.start t.host t.engine t.config.memoryPages t.image desk asked = (.ok (), s) →
        Session.run t.host t.budget s = .ok () s' →
        s'.suspension.isIdle ∧ s'.suspension.count = (t.log r).countP Notice.isHanded ∧
          Chained t.loader asked (t.log r) (t.typeset r).2.asked := by
  refine ⟨Suspension.sound_after, fun s s' a cause => refused_of_transition, fun h s hs => controlled h hs, ?_⟩
  intro t r desk asked s s' hsetOut hstart hrun
  have hlog : t.log r = runLog t.host t.budget s := by simp only [log, hsetOut, hstart]
  have hlast : (t.typeset r).2.asked = s'.asked := by simp only [typeset, hsetOut, hstart, hrun]
  have hfirst : s.asked = asked := by
    have hasked := asked_start t.host t.engine t.config.memoryPages t.image desk asked
    rwa [hstart] at hasked
  rw [hlog, hlast, ← hfirst]
  exact (controlled t.host (suspension_of_start hstart)).idle hrun

/-- One program is suspended, comes back and ends with nothing outstanding; another one, which
does not come back to its open, ends with an error. -/
theorem suspension_sound_showing :
    (∃ s, Session.run (showing 0).host (showing 0).budget (atMain blankDesk) = .ok () s ∧ s.suspension.isIdle ∧
      s.suspension.count = (runLog (showing 0).host (showing 0).budget (atMain blankDesk)).countP Notice.isHanded ∧
      Chained (showing 0).loader #[] (runLog (showing 0).host (showing 0).budget (atMain blankDesk)) s.asked) ∧
    ∃ cost s, ∀ budget > cost, Session.run forgetful.host budget (atMain blankDesk) = .error .lostRewind s := by
  obtain ⟨-, -, hcontrolled, -⟩ := suspension_sound (σ := State)
  constructor
  · obtain ⟨m, hprepare, halike⟩ := ControlBlock.prepare_eq_ok (runs_showing 0 blankDesk).room
    have hvalue : m.bytes.data[(0 : UInt32).toNat]? = some 0 := by
      rw [← halike.byte _ (by decide)]
      exact getElem?_seeded (by decide)
    obtain ⟨-, s, hrun, -⟩ := shows_of_missed (s := atMain blankDesk) (h := (showing 0).host) rfl rfl rfl
      (runs_showing 0 blankDesk) (canCall_showing 0) not_knows_blankDesk (content_showing 0) hprepare hvalue
      (budget_showing 0 ▸ le_unlimited)
    have hrun' : Session.run (showing 0).host (showing 0).budget (atMain blankDesk) = .ok () s := by
      rw [run_of_enter (enter_showing 0 _)]
      exact hrun
    exact ⟨s, hrun', (hcontrolled _ _ rfl).idle hrun'⟩
  · obtain ⟨l, s, hpasses, hrewound⟩ := passes_forgetful
    have henter : Serving.enter forgetful.host .main (atMain blankDesk) = .ok () (atMain blankDesk) :=
      Serving.enter_eq_ok _ (canCall_forgetful _) rfl
    obtain ⟨cost, hlost, -⟩ := (hcontrolled forgetful.host (atMain blankDesk) rfl).lost henter hpasses hrewound
    exact ⟨cost, s, hlost⟩

end Typesetter
end Galley
