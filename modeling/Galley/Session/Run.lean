import Galley.Session.Serve

/-! Running a session. The guest and the host take turns: the guest steps through its main function until it leaves
it, and then the host looks why. A guest that has nothing outstanding is done. One that has unwound sleeps while the
file it missed is fetched, and is then rewound. Every turn costs one unit of the budget, which bounds the run. -/
namespace Galley.Session
open Serving

variable {σ : Type}

/-- Who goes on. -/
inductive Turn where
  /-- The guest, inside its main function. -/
  | guest
  /-- The host, after the guest has left its main function. -/
  | host
  deriving DecidableEq

/-- Does a step of the guest, the calls of which are served by `answer`. -/
def perform (h : Host σ) (answer : Call Int32 → Serving σ (Option Int32)) (step : σ → Memory → Action σ) :
    Serving σ Turn := fun ⟨guest, memory, desk, suspension, asked⟩ =>
  let ⟨guest, memory, move⟩ := step guest memory
  let s : Session σ := ⟨guest, memory, desk, suspension, asked⟩
  match move with
  | .goOn => .ok .guest s
  | .leave => .ok .host s
  | .trap cause => .error (.trap cause) s
  | .spin => .error .outOfFuel s
  | .call call =>
    match answer call s with
    | .error e s => .error e s
    | .ok result ⟨guest, memory, desk, suspension, asked⟩ =>
      match h.guest.resume guest result with
      | .goOn guest => .ok .guest ⟨guest, memory, desk, suspension, asked⟩
      | .leave guest => .ok .host ⟨guest, memory, desk, suspension, asked⟩

/-- Fetches a file for the sleeping guest and stores it under its name, if it can be had. -/
def supply (h : Host σ) (name : String) : Serving σ Unit := fun s =>
  match h.loader.fetchOptional name s.asked with
  | .ok (some content) asked => .ok () { s with asked, desk := s.desk.insert name content }
  | .ok none asked => .ok () { s with asked }
  | .error _ asked => .ok () { s with asked }

/-- What the host does with a guest that has left its main function; true when the run is over. -/
def settle (h : Host σ) : Serving σ Bool := do
  match (← get).suspension.phase with
  | .running => pure true
  | .sleeping => throw .lostRewind
  | .unwinding =>
    enter h .stopUnwind
    let name ← transition Suspension.sleep
    supply h name
    enter h (.startRewind h.control.address)
    enter h .main
    pure false

/-- Takes a turn; no turn follows when the run is over. -/
def takeTurn (h : Host σ) : Turn → Serving σ (Option Turn)
  | .guest => some <$> perform h (serve h) h.guest.step
  | .host => do if ← settle h then pure none else pure (some .guest)

/-- Takes turns until the run is over. -/
def runTurns (h : Host σ) : Nat → Turn → Serving σ Unit
  | 0, _ => throw .outOfFuel
  | budget + 1, turn => do
    match ← takeTurn h turn with
    | none => pure ()
    | some turn => runTurns h budget turn

/-- Runs the guest from the entry into its main function to the end. -/
def run (h : Host σ) (budget : Nat) : Serving σ Unit := do
  enter h .main
  runTurns h budget .guest

end Galley.Session
