import Galley.Clock
import Galley.File.Desk
import Galley.Guest
import Galley.Loader
import Galley.Memory.Control
import Galley.Suspension

/-! A session: one run of a guest, with the files and the memory it works on. Whatever ends a session early leaves
it as it then is, so that what was printed until then is not lost. -/
namespace Galley

/-- Why a session ends early. -/
inductive Stop where
  /-- The guest stopped on its own. -/
  | trap (cause : Trap)
  /-- A file operation of the guest failed. -/
  | file (cause : FileError)
  /-- The guest asked for a file while another was outstanding. -/
  | refused (cause : Suspension.Refused)
  /-- The guest was rewound, and did not come back to the call that missed. -/
  | lostRewind
  /-- The guest made a call that needs its memory before it had been set up. -/
  | detached
  | outOfFuel
  /-- The host cannot go on. -/
  | abort
  deriving DecidableEq

namespace Stop

def message : Stop → String
  | trap cause => cause.message
  | file cause => cause.message
  | refused cause => cause.message
  | lostRewind => "guest returned from rewind without re-entering the suspended call"
  | detached => "guest called the host before instantiation finished"
  | outOfFuel => "all fuel consumed by WebAssembly"
  | abort => "range out of bounds of the file buffer"

/-- What a failed file operation means for the session. -/
def ofFile : FileFailure → Stop
  | .error cause => file cause
  | .abort => abort

end Stop

/-- A session with a guest of states `σ`. -/
structure Session (σ : Type) where
  guest : σ
  memory : Memory
  desk : Desk
  suspension : Suspension
  /-- The names that the asset store was asked for. -/
  asked : Array String

/-- What stays the same during a session. -/
structure Host (σ : Type) where
  guest : Guest σ
  /-- There is a stack for functions that call others. -/
  hasStack : Bool
  /-- What the guest computes is counted, for which each of its functions calls another. -/
  isMetered : Bool
  loader : Loader
  control : ControlBlock
  clock : Clock

/-- An action of a session; a stop keeps what was done before it. -/
abbrev Serving (σ α : Type) := EStateM Stop (Session σ) α

/-- A function of the guest can be called: it calls no other, or there is a stack for that. -/
def Host.canCall {σ : Type} (h : Host σ) (callsOn : Bool) : Bool := h.hasStack || !(h.isMetered || callsOn)

namespace Serving

variable {σ α : Type}

/-- Runs an operation on files and memory. -/
def onSeat (op : Desk.Operation α) : Serving σ α := fun ⟨guest, memory, desk, suspension, asked⟩ =>
  match op ⟨desk, memory⟩ with
  | .ok a ⟨desk, memory⟩ => .ok a ⟨guest, memory, desk, suspension, asked⟩
  | .error e ⟨desk, memory⟩ => .error (.ofFile e) ⟨guest, memory, desk, suspension, asked⟩

/-- Asks the files for something. -/
def query (ask : Desk → Except FileError α) : Serving σ α := fun s =>
  match ask s.desk with
  | .ok a => .ok a s
  | .error e => .error (.file e) s

/-- Reads from the memory. -/
def look (read : Memory → Except Memory.Fault α) : Serving σ α := fun s =>
  match read s.memory with
  | .ok a => .ok a s
  | .error fault => .error (.file (.memory fault)) s

/-- Changes the files. -/
def onDesk (change : Desk → Except FileFailure Desk) : Serving σ Unit :=
  fun ⟨guest, memory, desk, suspension, asked⟩ =>
    match change desk with
    | .ok desk => .ok () ⟨guest, memory, desk, suspension, asked⟩
    | .error e => .error (.ofFile e) ⟨guest, memory, desk, suspension, asked⟩

/-- Makes a transition of the suspension. -/
def transition (move : Suspension → Except Suspension.Refused (α × Suspension)) : Serving σ α :=
  fun ⟨guest, memory, desk, suspension, asked⟩ =>
    match move suspension with
    | .ok (a, suspension) => .ok a ⟨guest, memory, desk, suspension, asked⟩
    | .error e => .error (.refused e) ⟨guest, memory, desk, suspension, asked⟩

/-- Calls an export of the guest. -/
def enter (h : Host σ) (e : Entry) : Serving σ Unit := fun ⟨guest, memory, desk, suspension, asked⟩ =>
  if h.canCall (h.guest.callsOn e.toExport) then
    match h.guest.enter e guest with
    | .ok guest => .ok () ⟨guest, memory, desk, suspension, asked⟩
    | .error cause => .error (.trap cause) ⟨guest, memory, desk, suspension, asked⟩
  else .error (.trap .stackExhausted) ⟨guest, memory, desk, suspension, asked⟩

end Serving
end Galley
