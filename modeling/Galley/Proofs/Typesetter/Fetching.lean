import Galley.Proofs.Session.Fetching
import Galley.Proofs.Session.Setup
import Galley.Typesetter

/-! # What typesetting fetches

The log of typesetting a request is that of its session, which starts with nothing
outstanding: no call of a start function can open a file.  So it is disciplined, it accounts
for all that is asked for after the bundles of the request, and a page description comes with
the number of names that were handed to the loader (`Typesetter.fetch_disciplined`). -/
namespace Galley

variable {σ : Type}

namespace Session
open Serving

variable {h : Host σ} {s s' : Session σ}

/-- A call that a start function makes keeps the desk, and leaves the suspension as it is. -/
theorem kept_of_perform {turn : Turn} {step : σ → Memory → Action σ}
    (hs : perform h (serveDetached h) step s = .ok turn s') : s.desk.Keeps s'.desk ∧ s'.suspension = s.suspension := by
  rw [perform_eq] at hs
  split at hs
  · cases hs
    exact ⟨.refl _, rfl⟩
  · cases hs
    exact ⟨.refl _, rfl⟩
  · cases hs
  · cases hs
  next call hcall =>
    have hserve := paired_serveDetached (h := h) (abreast_self h.control (s.stepped step)) call
    generalize serveDetached h call (s.stepped step) = r at hserve hs
    cases hserve with
    | error hafter => cases hs
    | @ok result u _ hafter =>
      have hsame : u.suspension = s.suspension := congrArg (·.suspension) hafter.first
      have hkept : s.desk.Keeps u.desk := hafter.seat.kept
      rw [answered] at hs
      split at hs
      · cases hs
        exact ⟨hkept, hsame⟩
      · cases hs
        exact ⟨hkept, hsame⟩

/-- A start function keeps the desk, and leaves the suspension as it is. -/
theorem kept_of_runStart {steps : List (σ → Memory → Action σ)} (hs : runStart h steps s = .ok () s') :
    s.desk.Keeps s'.desk ∧ s'.suspension = s.suspension := by
  induction steps generalizing s with
  | nil =>
    cases hs
    exact ⟨.refl _, rfl⟩
  | cons step steps ih =>
    obtain ⟨turn, t, hperform, hrest⟩ := bind_eq_ok hs
    obtain ⟨hdesk, hsuspension⟩ := kept_of_perform hperform
    cases turn with
    | guest =>
      obtain ⟨hdesk', hsuspension'⟩ := ih hrest
      exact ⟨hdesk.trans hdesk', hsuspension'.trans hsuspension⟩
    | host =>
      cases hrest
      exact ⟨hdesk, hsuspension⟩

/-- A session starts with the desk kept, and with nothing outstanding. -/
theorem kept_of_start {e : Engine σ} {pages : Nat} {image : ByteArray} {desk : Desk} {asked : Array String}
    (hs : start h e pages image desk asked = (.ok (), s)) : desk.Keeps s.desk ∧ s.suspension = .initial := by
  rw [start_eq] at hs
  split at hs
  · cases hs
  next first hseated =>
    have hfirst : first.desk = desk ∧ first.suspension = .initial := by
      simp only [seated?] at hseated
      split at hseated
      · obtain ⟨memory, -, rfl⟩ := Option.map_eq_some_iff.mp hseated
        exact ⟨rfl, rfl⟩
      · cases hseated
    split at hs
    · cases hs
    next t hrun =>
      split at hs
      · cases hs
      · cases hs
        obtain ⟨hdesk, hsuspension⟩ := kept_of_runStart hrun
        exact ⟨hfirst.1 ▸ hdesk, hsuspension.trans hfirst.2⟩

theorem suspension_of_start {e : Engine σ} {pages : Nat} {image : ByteArray} {desk : Desk} {asked : Array String}
    (hs : start h e pages image desk asked = (.ok (), s)) : s.suspension = .initial :=
  (kept_of_start hs).2

/-! ## From the main function to the end -/

/-- The log of a run of the main function. -/
def runLog (h : Host σ) (budget : Nat) (s : Session σ) : List Notice :=
  match enter h .main s with
  | .ok () s => log h budget .guest s
  | .error _ _ => []

theorem disciplined_nil (loader : Loader) (asked : Array String) : Disciplined loader asked [] asked where
  chained := rfl
  scratch hmem := by cases hmem
  missed hlog := by simp at hlog
  loaded hmem := by cases hmem
  once hlog := by simp at hlog
  single hlog := by simp at hlog
  asked hmem := by cases hmem

theorem disciplined_runLog (hs : s.suspension = .initial) (budget : Nat) :
    Disciplined h.loader s.asked (runLog h budget s) (left (run h budget s)).asked := by
  rw [runLog, run_eq]
  have henters := spares_enter (h := h) aside_asked (rfl : s.asked = s.asked) .main
  cases henter : enter h .main s with
  | ok u s' =>
    obtain ⟨guest, rfl⟩ := enter_cases henter
    exact disciplined_log (s := { s with guest }) h budget .guest hs
  | error e s' =>
    rw [henter] at henters
    have hasked : s'.asked = s.asked := henters
    dsimp only [left]
    rw [hasked]
    exact disciplined_nil h.loader s.asked

theorem count_of_run {budget : Nat} (hs : s.suspension = .initial) (hrun : run h budget s = .ok () s') :
    s'.suspension.count = (runLog h budget s).countP Notice.isHanded := by
  rw [run_eq] at hrun
  rw [runLog]
  cases henter : enter h .main s with
  | error cause t =>
    rw [henter] at hrun
    cases hrun
  | ok u t =>
    rw [henter] at hrun
    obtain ⟨guest, rfl⟩ := enter_cases henter
    exact count_of_runTurns (s := { s with guest }) hs hrun

theorem chained_of_run {budget : Nat} (hs : s.suspension = .initial) (hrun : run h budget s = .ok () s') :
    Chained h.loader s.asked (runLog h budget s) s'.asked := by
  have hchained := (disciplined_runLog (h := h) hs budget).chained
  rwa [hrun] at hchained

end Session

namespace Typesetter
open Session

variable {t : Typesetter σ}

/-- What the host sees of the session in which a request is typeset, from the entry into the
main function on. -/
def log (t : Typesetter σ) (r : Request) : List Notice :=
  match t.setOut r #[] with
  | .error _ _ => []
  | .ok desk asked =>
    match Session.start t.host t.engine t.config.memoryPages t.image desk asked with
    | (.error _, _) => []
    | (.ok (), s) => runLog t.host t.budget s

/-- The page description that a session gives counts its suspensions. -/
theorem suspensions_of_outcome {s : Session σ} {transcript : Array String} {p : Typeset}
    (hp : t.outcome s transcript = .ok p) : p.suspensions = s.suspension.count := by
  rw [outcome] at hp
  split at hp
  · split at hp
    · cases hp
    · cases hp
      rfl
  · cases hp

/-- **Fetches are disciplined.**  Whatever the engine does, its store holds and the request
asks for: what is handed to the loader because the guest missed it is no scratch file, was
neither stored nor opened, and is not handed over again once it could be had; an open that
misses is completed before the next one misses, whether the file could be had or not; and each
handover makes the store see two names at most.  The handovers lead, one after the other, from
what was asked for to set the request out to all that it asks for.  A page description comes
with their number. -/
theorem fetch_disciplined (t : Typesetter σ) (r : Request) :
    Disciplined t.loader (Loader.askedAfter (t.setOut r #[])) (t.log r) (t.typeset r).2.asked ∧
      ∀ p, (t.typeset r).1 = .ok p → p.suspensions = (t.log r).countP Notice.isHanded := by
  -- without a desk or a session nothing is ever handed over
  cases hsetOut : t.setOut r #[] with
  | error e asked =>
    simp only [log, typeset, hsetOut]
    exact ⟨disciplined_nil t.loader asked, fun p hp => by cases hp⟩
  | ok desk asked =>
    have hasked := asked_start t.host t.engine t.config.memoryPages t.image desk asked
    rcases hstart : Session.start t.host t.engine t.config.memoryPages t.image desk asked with ⟨e | u, s⟩
    · simp only [log, typeset, hsetOut, hstart]
      rw [hstart] at hasked
      have hsame : s.asked = Loader.askedAfter (EStateM.Result.ok desk asked : EStateM.Result LoadError _ _) := hasked
      rw [hsame]
      exact ⟨disciplined_nil t.loader _, fun p hp => by cases hp⟩
    · have hsuspension := suspension_of_start hstart
      have hdisciplined := disciplined_runLog (h := t.host) hsuspension t.budget
      simp only [log, typeset, hsetOut, hstart]
      rw [hstart] at hasked
      have hsame : s.asked = Loader.askedAfter (EStateM.Result.ok desk asked : EStateM.Result LoadError _ _) := hasked
      rw [hsame] at hdisciplined
      cases hrun : Session.run t.host t.budget s with
      | error cause s' =>
        rw [hrun] at hdisciplined
        exact ⟨hdisciplined, fun p hp => by cases hp⟩
      | ok u s' =>
        rw [hrun] at hdisciplined
        refine ⟨hdisciplined, fun p hp => ?_⟩
        exact (suspensions_of_outcome hp).trans (count_of_run hsuspension hrun)

end Typesetter
end Galley
