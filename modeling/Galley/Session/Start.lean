import Galley.Session.Run

/-! Setting up a session. The memory has its fixed size from the start; the image fills its front, the engine's own
data is laid over it, and the engine's start function runs. It runs before the guest is attached to the session, so
calls that need its memory fail. The exports are looked up last. -/
namespace Galley

/-- Why a guest cannot be set up. -/
inductive StartError where
  /-- The memory does not suit the engine, an import is not there, the engine's data does not fit, or the start
  function fails. -/
  | instantiation
  | missing (e : Export)
  deriving DecidableEq

namespace Session

variable {σ : Type}

/-- A memory of so many bytes with an image in its front; what does not fit is cut off. -/
def seeded (size : Nat) (image : ByteArray) : Memory :=
  let image := image.extract 0 size
  ⟨image ++ zeros (size - image.size)⟩

/-- Lays pieces over a memory; none if one does not fit. -/
def overlay (pieces : List (Nat × ByteArray)) (m : Memory) : Option Memory :=
  match pieces with
  | [] => some m
  | (offset, bytes) :: more =>
    match Memory.write offset bytes m with
    | .ok () m => overlay more m
    | .error _ _ => none

/-- Serves the calls of a start function. -/
def serveDetached (h : Host σ) (call : Call Int32) : Serving σ (Option Int32) :=
  if call.usesMemory then throw .detached else serve h call

/-- Runs a start function. -/
def runStart (h : Host σ) : List (σ → Memory → Action σ) → Serving σ Unit
  | [] => pure ()
  | step :: more => do
    match ← perform h (serveDetached h) step with
    | .guest => runStart h more
    | .host => pure ()

/-- The first export that an engine lacks. -/
def firstMissing (e : Engine σ) : Option Export := Export.all.find? fun x => !e.exports x

/-- Sets up a session of an engine at a desk. The session is left as it then is when that fails, without a memory
if it did not come to that. -/
def start (h : Host σ) (e : Engine σ) (pages : Nat) (image : ByteArray) (desk : Desk) (asked : Array String) :
    Except StartError Unit × Session σ :=
  let blank : Session σ :=
    { guest := e.initial, memory := Memory.zeroed 0, desk, suspension := .initial, asked }
  let fits := e.minPages ≤ pages && pages ≤ e.maxPages && e.isLinked
  let canStart := e.start.isEmpty || h.canCall e.startCallsOn
  if !(fits && canStart) then (.error .instantiation, blank)
  else
    match overlay e.data (seeded (pages * Config.pageSize) image) with
    | none => (.error .instantiation, blank)
    | some memory =>
      match runStart h e.start { blank with memory } with
      | .error _ s => (.error .instantiation, s)
      | .ok () s =>
        match firstMissing e with
        | some x => (.error (.missing x), s)
        | none => (.ok (), { s with guest := e.ready s.guest })

end Session
end Galley
