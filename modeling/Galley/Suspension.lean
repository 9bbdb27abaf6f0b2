/-! The suspension controller. A guest that misses a file unwinds its own stack, sleeps while the host fetches
the file, and is rewound to the call that missed. Only one fetch can be outstanding; a transition that does not
fit the phase is refused and changes nothing. -/
namespace Galley

/-- Where control is: with the guest, with a guest on its way out, or with the host. -/
inductive Phase where
  | running
  | unwinding
  | sleeping
  deriving DecidableEq

def Phase.label : Phase → String
  | running => "running"
  | unwinding => "unwinding"
  | sleeping => "sleeping"

structure Suspension where
  phase : Phase
  /-- Suspensions begun and not yet woken from. -/
  depth : Int
  /-- The name to fetch, while the guest unwinds. -/
  pending : Option String
  /-- Suspensions begun so far. -/
  count : Nat
  deriving DecidableEq

namespace Suspension

/-- The transitions. -/
inductive Transition where
  | begin
  | sleep
  | wake
  deriving DecidableEq

def Transition.label : Transition → String
  | begin => "begin unwind"
  | sleep => "sleep"
  | wake => "wake"

/-- A transition that was tried in a phase it does not leave. -/
structure Refused where
  transition : Transition
  phase : Phase
  deriving DecidableEq

def Refused.message (r : Refused) : String :=
  "Invalid suspension transition: " ++ r.transition.label ++ " while " ++ r.phase.label

/-- The guest runs and nothing is outstanding. -/
def initial : Suspension := { phase := .running, depth := 0, pending := none, count := 0 }

def isIdle (s : Suspension) : Bool := s.phase == .running && s.depth == 0

/-- The guest starts to unwind for the sake of a file. -/
def begin (s : Suspension) (name : String) : Except Refused Suspension :=
  match s.phase with
  | .running =>
    .ok { phase := .unwinding, depth := s.depth + 1, pending := some name, count := s.count + 1 }
  | phase => .error ⟨.begin, phase⟩

/-- The guest is out and the host takes the name to fetch. -/
def sleep (s : Suspension) : Except Refused (String × Suspension) :=
  match s.phase, s.pending with
  | .unwinding, some name => .ok (name, { s with phase := .sleeping, pending := none })
  | phase, _ => .error ⟨.sleep, phase⟩

/-- The guest is back at the call that missed. -/
def wake (s : Suspension) : Except Refused Suspension :=
  match s.phase with
  | .sleeping => .ok { s with phase := .running, depth := s.depth - 1 }
  | phase => .error ⟨.wake, phase⟩

end Suspension
end Galley
