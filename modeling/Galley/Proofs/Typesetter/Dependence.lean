import Galley.Typesetter

/-! # What a rendering depends on

A rendering is a function of the normal form of the source and of the options
(`Typesetter.render_congr`).  The clock has a part in it only if the engine asks for the
time: for one that does not, no run depends on it (`Typesetter.render_withClock`). -/
namespace Galley

variable {σ : Type}

/-! ## The clock -/

/-- The call asks for the time or the date. -/
def Call.usesClock {α : Type} : Call α → Bool
  | .minutes | .day | .month | .year => true
  | _ => false

/-- Neither the main function nor the start function of an engine asks for the time or the
date. -/
structure Engine.Clockless (e : Engine σ) : Prop where
  main : ∀ {s m call}, (e.guest.step s m).move = .call call → call.usesClock = false
  start : ∀ {step}, step ∈ e.start → ∀ {s m call}, (step s m).move = .call call → call.usesClock = false

/-- A host with another clock. -/
def Host.withClock (h : Host σ) (clock : Clock) : Host σ := { h with clock }

namespace Session

variable (h : Host σ) (clock : Clock)

theorem serve_withClock {call : Call Int32} (hcall : call.usesClock = false) :
    serve (h.withClock clock) call = serve h call := by
  cases call <;> first | rfl | cases hcall

theorem perform_withClock {answer answer' : Call Int32 → Serving σ (Option Int32)}
    {step : σ → Memory → Action σ}
    (hanswer : ∀ {s m call}, (step s m).move = .call call → answer call = answer' call) :
    perform (h.withClock clock) answer step = perform h answer' step := by
  funext s
  have hagree := @hanswer s.guest s.memory
  rcases hstep : step s.guest s.memory with ⟨guest, memory, move⟩
  rw [hstep] at hagree
  simp only [perform, hstep]
  cases move with
  | call call =>
    simp only [hagree rfl]
    rfl
  | _ => rfl

variable {h} (hmain : ∀ {s m call}, (h.guest.step s m).move = .call call → call.usesClock = false)
include hmain

theorem takeTurn_withClock (turn : Turn) : takeTurn (h.withClock clock) turn = takeTurn h turn := by
  cases turn with
  | guest =>
    refine congrArg (Functor.map some) (perform_withClock h clock ?_)
    exact fun hcall => serve_withClock h clock (hmain hcall)
  | host => rfl

theorem runTurns_withClock (budget : Nat) (turn : Turn) :
    runTurns (h.withClock clock) budget turn = runTurns h budget turn := by
  induction budget generalizing turn with
  | zero => rfl
  | succ budget ih =>
    rw [runTurns, runTurns, takeTurn_withClock clock hmain]
    simp only [ih]

theorem run_withClock (budget : Nat) : run (h.withClock clock) budget = run h budget := by
  rw [run, run, runTurns_withClock clock hmain]
  rfl

omit hmain in
theorem runStart_withClock {steps : List (σ → Memory → Action σ)}
    (hsteps : ∀ {step}, step ∈ steps → ∀ {s m call}, (step s m).move = .call call → call.usesClock = false) :
    runStart (h.withClock clock) steps = runStart h steps := by
  induction steps with
  | nil => rfl
  | cons step steps ih =>
    have hstep : perform (h.withClock clock) (serveDetached (h.withClock clock)) step =
        perform h (serveDetached h) step := by
      refine perform_withClock h clock fun hcall => ?_
      rw [serveDetached, serveDetached, serve_withClock h clock (hsteps (List.mem_cons_self ..) hcall)]
    rw [runStart, runStart, hstep, ih fun hmem => hsteps (List.mem_cons_of_mem _ hmem)]

end Session

variable {e : Engine σ}

theorem Engine.Clockless.start_withClock (he : e.Clockless) (h : Host σ) (clock : Clock) (pages : Nat)
    (image : ByteArray) (desk : Desk) (asked : Array String) :
    Session.start (h.withClock clock) e pages image desk asked = Session.start h e pages image desk asked := by
  simp only [Session.start, Session.runStart_withClock clock he.start]
  rfl

namespace Typesetter

/-- A typesetter with another clock. -/
def withClock (t : Typesetter σ) (clock : Clock) : Typesetter σ := { t with clock }

variable {t : Typesetter σ}

theorem preload_withClock (clock : Clock) (bundles : List (BundleKind × String)) :
    (t.withClock clock).preload bundles = t.preload bundles := by
  induction bundles with
  | nil => rfl
  | cons bundle more ih =>
    funext d
    rw [preload, preload, ih]
    rfl

theorem setOut_withClock (clock : Clock) (r : Request) : (t.withClock clock).setOut r = t.setOut r := by
  rw [setOut, setOut, preload_withClock]
  rfl

/-- Typesetting with an engine that does not ask for the time does not depend on it. -/
theorem typeset_withClock (ht : t.engine.Clockless) (clock : Clock) (r : Request) :
    (t.withClock clock).typeset r = t.typeset r := by
  have hstart := ht.start_withClock t.host clock
  have hrun := Session.run_withClock clock (h := t.host) ht.main
  have hhost : (t.withClock clock).host = t.host.withClock clock := rfl
  have hstart' : Session.start (t.host.withClock clock) (t.withClock clock).engine =
      Session.start t.host t.engine := by
    funext pages image desk asked
    exact hstart pages image desk asked
  simp only [typeset, setOut_withClock, hhost, hrun, hstart']
  rfl

theorem render_withClock (ht : t.engine.Clockless) (clock : Clock) (renderer : Renderer) (r : Request) :
    (t.withClock clock).render renderer r = t.render renderer r := by
  rw [render, typeset_withClock ht, render]

/-! ## The request -/

/-- A rendering depends on a request through the normal form of its source and its options. -/
theorem render_congr (t : Typesetter σ) (renderer : Renderer) {r r' : Request} (hbody : r.body = r'.body)
    (hoptions : r.options = r'.options) : t.render renderer r = t.render renderer r' := by
  have hdocument : r.document = r'.document := by rw [Request.document, Request.document, hbody, hoptions]
  have hprint : r.fingerprint = r'.fingerprint := by
    rw [Request.fingerprint, Request.keyBytes, hbody, hoptions]
    rfl
  have htypeset : t.typeset r = t.typeset r' := by
    have hshown (transcript : Array String) : shown r transcript = shown r' transcript := by
      rw [shown, shown, hdocument, hoptions]
    have hsetOut : t.setOut r = t.setOut r' := by rw [setOut, setOut, hdocument, hoptions]
    simp only [typeset, hsetOut, hshown]
  have hmarkup : markup renderer r = markup renderer r' := by
    funext page
    rw [markup, markup, hprint]
  rw [render, htypeset, hmarkup, render]

end Typesetter

end Galley
