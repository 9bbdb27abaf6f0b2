import Galley.Cache.Machine
import Galley.Typesetter

/-! The service: a typesetter and a renderer behind the result cache. Requests with the same fingerprint are rendered
once; several requests may be under way at the same time. How many typesetters share the work shows in no answer,
since sessions have nothing in common. -/
namespace Galley

/-- A service with an engine of states `σ` and a cache backing of states `β`. -/
structure Service (σ β : Type) where
  typesetter : Typesetter σ
  renderer : Renderer
  backing : Backing β
  cache : Cache β

namespace Service

variable {σ β : Type}

/-- The parts that a service is made of. -/
structure Parts (β : Type) where
  config : Config
  store : Store
  fonts : FontSource
  clock : Clock
  renderer : Renderer
  backing : Backing β
  /-- The state in which the backing is found. -/
  kept : β

/-- Builds a service: the configuration is checked, the assets are loaded, and the engine is compiled. The names
asked for are the result's second part. -/
def build (compile : ByteArray → Option (Engine σ)) (parts : Parts β) :
    Except TypesetError (Service σ β) × Array String :=
  match parts.config.check with
  | .error e => (.error (.invalid e), #[])
  | .ok () =>
    let loader : Loader := { store := parts.store, layout := parts.config.assets }
    match loader.loadEngine #[] with
    | .error e asked => (.error (.resource e), asked)
    | .ok assets asked =>
      if parts.config.maxStackSize == 0 then (.error .engineCreation, asked)
      else
        match compile assets.engine with
        | none => (.error .moduleCompilation, asked)
        | some engine =>
          let typesetter : Typesetter σ :=
            { config := parts.config, engine, image := assets.image, loader, fonts := parts.fonts,
              clock := parts.clock }
          (.ok { typesetter, renderer := parts.renderer, backing := parts.backing, cache := .start parts.kept },
            asked)

/-- Typesets a request, past the cache. -/
def typeset (s : Service σ β) (r : Request) : Except TypesetError Typeset × Traffic := s.typesetter.typeset r

/-- The answer to a request: how it ended, and the try that was made for it, if one was. -/
structure Answer where
  result : Option (Except TypesetError Rendered)
  attempt : Option Typesetter.Attempt

/-- Renders requests that come at the same time, in order of arrival. -/
def renderAll (s : Service σ β) (rs : List Request) : List Answer × Service σ β :=
  let attempts : List (Thunk Typesetter.Attempt) :=
    rs.map fun r => .mk fun _ => s.typesetter.render s.renderer r
  let calls := rs.zipWith (fun r (a : Thunk Typesetter.Attempt) => (r.fingerprint, a.map (·.result))) attempts
  let (answers, cache) := Cache.batch s.backing s.cache calls
  let answers := answers.zipWith (fun (answer : Cache.Answer TypesetError) attempt =>
    { result := answer.result, attempt := if answer.ran then some attempt.get else none }) attempts
  (answers, { s with cache })

/-- Renders a request. -/
def render (s : Service σ β) (r : Request) : Answer × Service σ β :=
  let (answers, s) := s.renderAll [r]
  (answers.head?.getD { result := none, attempt := none }, s)

end Service
end Galley
