import Galley.Proofs.Session.Serving

/-! # Guests that can be suspended

A `Resumable` guest is a strategy: what it does next depends on the results of its calls so
far and on the memory outside the control words.  All that its state holds of these results
is what a relation `same` compares; the rest belongs to the machinery of unwinding.  When an
open makes it unwind it leaves its main function, and when it is rewound it makes the same
open again, as if it had never been away.  A `Discreet` guest hands nothing of the control
words to the host. -/
namespace Galley

variable {σ : Type}

/-- Two actions between which nothing but the control words tells the difference. -/
structure Action.Alike (b : ControlBlock) (same : σ → σ → Prop) (a a' : Action σ) : Prop where
  state : same a.state a'.state
  memory : b.Alike a.memory a'.memory
  move : a.move = a'.move

/-- Two ways alike to take the return of a call. -/
inductive Return.Alike (same : σ → σ → Prop) : Return σ → Return σ → Prop where
  | goOn {s s' : σ} (h : same s s') : Return.Alike same (.goOn s) (.goOn s')
  | leave {s s' : σ} (h : same s s') : Return.Alike same (.leave s) (.leave s')

/-- Two ways alike to enter the guest. -/
inductive Entered (same : σ → σ → Prop) : Except Trap σ → Except Trap σ → Prop where
  | ok {s s' : σ} (h : same s s') : Entered same (.ok s) (.ok s')
  | error (cause : Trap) : Entered same (.error cause) (.error cause)

/-- If the guest is made to unwind in a call, with the state `s` and the memory `m`, then it
leaves its main function.  When it is rewound, on whatever control words, it makes the call
again, and is then as it was before. -/
def Guest.ComesBack (g : Guest σ) (b : ControlBlock) (same : σ → σ → Prop) (call : Call Int32) (s : σ)
    (m : Memory) : Prop :=
  ∃ unwinding away unwound rewinding rewound,
    g.enter (.startUnwind b.address) s = .ok unwinding ∧
    g.resume unwinding (some Session.notReady) = .leave away ∧
    g.enter .stopUnwind away = .ok unwound ∧
    g.enter (.startRewind b.address) unwound = .ok rewinding ∧
    g.enter .main rewinding = .ok rewound ∧
    ∀ m', b.Alike m m' → (g.step rewound m').move = .call call ∧ b.Alike m (g.step rewound m').memory ∧
      ∃ back, g.enter .stopRewind (g.step rewound m').state = .ok back ∧ same s back

/-- The guest is a strategy that can be suspended.  States are `same` if neither is in the
middle of a suspension and they hold the same of what the guest has been told. -/
structure Guest.Resumable (g : Guest σ) (b : ControlBlock) (same : σ → σ → Prop) : Prop where
  symm : ∀ {s s'}, same s s' → same s' s
  trans : ∀ {s s' s''}, same s s' → same s' s'' → same s s''
  step : ∀ {s s' m m'}, same s s' → b.Alike m m' → (g.step s m).Alike b same (g.step s' m')
  resume : ∀ {s s'}, same s s' → ∀ result, (g.resume s result).Alike same (g.resume s' result)
  main : ∀ {s s'}, same s s' → Entered same (g.enter .main s) (g.enter .main s')
  comesBack : ∀ {s m length pointer}, same s s → (g.step s m).move = .call (.reset length pointer) →
    g.ComesBack b same (.reset length pointer) (g.step s m).state (g.step s m).memory
  /-- A step does not change how much memory there is. -/
  size : ∀ s m, (g.step s m).memory.size = m.size
  /-- A main function that makes calls is one that calls other functions. -/
  callsOn : ∀ {s m call}, (g.step s m).move = .call call → g.callsOn .main

/-- What the guest hands over in a call does not depend on the control words. -/
def Guest.Discreet (g : Guest σ) (b : ControlBlock) (same : σ → σ → Prop) : Prop :=
  ∀ {s m call}, same s s → (g.step s m).move = .call call → ∀ {m'}, b.Alike (g.step s m).memory m' →
    call.handed (g.step s m).memory = call.handed m'

/-- An engine with a guest that can be suspended, and a start function that does not break
that. -/
structure Engine.Resumable (e : Engine σ) (b : ControlBlock) (same : σ → σ → Prop) : Prop where
  guest : e.guest.Resumable b same
  initial : same e.initial e.initial
  start : ∀ {step}, step ∈ e.start → ∀ {s s' m m'}, same s s' → b.Alike m m' →
    (step s m).Alike b same (step s' m')
  startSize : ∀ {step}, step ∈ e.start → ∀ s m, (step s m).memory.size = m.size
  ready : ∀ {s s'}, same s s' → same (e.ready s) (e.ready s')

end Galley
