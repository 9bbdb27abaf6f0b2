import Galley.Renderer.Command
import Galley.Markup
import Galley.Request.Document
import Galley.Session.Start

/-! Typesetting a request: the bundles that it names and the document made of it are put on a fresh desk, the engine
runs, and the page description is read back from the output file. Every request gets a session of its own, so
nothing passes from one to the next. -/
namespace Galley

/-- Why there is no page description, or no markup. -/
inductive TypesetError where
  /-- An asset that is needed from the start cannot be loaded. -/
  | resource (cause : LoadError)
  | invalid (cause : Config.Invalid)
  | engineCreation
  | moduleCompilation
  | instantiation
  | missingExport (e : Export)
  /-- The run ended early. -/
  | stopped (cause : Stop) (transcript : Array String)
  | outOfFuel (transcript : Array String)
  | noOutput (transcript : Array String)
  | render (cause : RenderError)

namespace TypesetError

def outer (front : String) (inner : List String) : List String :=
  (front ++ (inner.head?).getD "") :: inner

/-- The causes of an error, outermost first. -/
def messages : TypesetError → List String
  | resource cause => outer "Required asset unavailable: " cause.messages
  | invalid cause => [cause.message]
  | engineCreation => outer "Engine creation failed: " ["max_wasm_stack size cannot be zero"]
  | moduleCompilation => outer "Module compilation failed: " ["not an engine"]
  | instantiation => outer "Instantiation failed: " ["the engine does not fit its host"]
  | missingExport e => ["Guest export not found: " ++ e.label]
  | stopped cause _ => outer "Guest trapped: " [cause.message]
  | outOfFuel _ => ["Fuel exhausted (CPU limit exceeded)"]
  | noOutput _ => ["Typesetting produced no output"]
  | render cause => outer "Rendering failed: " cause.messages

def message (e : TypesetError) : String := (e.messages.head?).getD ""

/-- The console lines of the run that failed. -/
def transcript : TypesetError → Array String
  | stopped _ transcript => transcript
  | outOfFuel transcript => transcript
  | noOutput transcript => transcript
  | _ => #[]

/-- The guest itself reported the failure: it ran to its end and wrote nothing. -/
def isGuestFailure : TypesetError → Bool
  | noOutput _ => true
  | _ => false

end TypesetError

/-- The result of typesetting. -/
structure Typeset where
  page : ByteArray
  transcript : Array String
  /-- How often the guest was suspended. -/
  suspensions : Nat
  /-- The engine reached its final end. -/
  finished : Bool

/-- What typesetting does besides giving a result. -/
structure Traffic where
  /-- The names that the asset store was asked for. -/
  asked : Array String
  /-- What was shown on the console. -/
  shown : Array String

/-- All that typesetting a request needs. -/
structure Typesetter (σ : Type) where
  config : Config
  engine : Engine σ
  image : ByteArray
  loader : Loader
  fonts : FontSource
  clock : Clock

/-- The bundles that a request names, packages first. -/
def Options.bundles (o : Options) : List (BundleKind × String) :=
  o.packages.map (fun p => (.package, p.name)) ++ o.libraries.map fun name => (.library, name)

/-- Puts files on a desk, in order. -/
def Desk.insertAll (d : Desk) (files : List (String × ByteArray)) : Desk :=
  files.foldl (fun d file => d.insert file.1 file.2) d

namespace Typesetter

variable {σ : Type}

/-- Puts the files of all bundles on a desk. -/
def preload (t : Typesetter σ) : List (BundleKind × String) → Desk → Loading Desk
  | [], d => pure d
  | (kind, name) :: more, d => do preload t more (d.insertAll (← t.loader.fetchBundle kind name))

/-- The desk that the engine starts with. -/
def setOut (t : Typesetter σ) (r : Request) : Loading Desk := do
  let d ← t.preload r.options.bundles (.start t.config.script.toUTF8 t.fonts)
  pure (d.insert t.config.inputFile r.document.toUTF8)

def host (t : Typesetter σ) : Host σ :=
  { guest := t.engine.guest, hasStack := t.config.hasStack, isMetered := t.config.fuelLimit.isSome
    loader := t.loader, control := .ofConfig t.config, clock := t.clock }

/-- How many turns a run without a limit may take: more than any run does. -/
def unlimited : Nat := Nat.pow 2 62

def budget (t : Typesetter σ) : Nat := t.config.fuelLimit.getD unlimited

/-- What a request shows on the console: its document and the lines of the transcript, if it asks for them. -/
def shown (r : Request) (transcript : Array String) : Array String :=
  if r.options.showConsole then #[r.document] ++ transcript else #[]

/-- The result of a run that ended by itself: the content of the output file, which must not be empty. -/
def outcome (t : Typesetter σ) (s : Session σ) (transcript : Array String) : Except TypesetError Typeset :=
  match s.desk.readBack t.config.outputFile with
  | some page =>
    if page.isEmpty then .error (.noOutput transcript)
    else .ok { page, transcript, suspensions := s.suspension.count, finished := s.desk.finished }
  | none => .error (.noOutput transcript)

/-- The error of a run that was stopped. -/
def failure (cause : Stop) (transcript : Array String) : TypesetError :=
  match cause with
  | .outOfFuel => .outOfFuel transcript
  | cause => .stopped cause transcript

/-- Typesets a request. -/
def typeset (t : Typesetter σ) (r : Request) : Except TypesetError Typeset × Traffic :=
  match t.setOut r #[] with
  | .error e asked => (.error (.resource e), { asked, shown := #[] })
  | .ok desk asked =>
    match Session.start t.host t.engine t.config.memoryPages t.image desk asked with
    | (.error e, s) =>
      let error := match e with
        | .instantiation => TypesetError.instantiation
        | .missing x => .missingExport x
      (.error error, { asked := s.asked, shown := shown r s.desk.console.transcript })
    | (.ok (), s) =>
      match Session.run t.host t.budget s with
      | .error cause s =>
        let transcript := s.desk.console.flush.transcript
        (.error (failure cause transcript), { asked := s.asked, shown := shown r transcript })
      | .ok () s =>
        let transcript := s.desk.console.flush.transcript
        (t.outcome s transcript, { asked := s.asked, shown := shown r transcript })

/-- One try to render a request. -/
structure Attempt where
  result : Except TypesetError String
  traffic : Traffic
  /-- The page description that the renderer was called on. -/
  page : Option ByteArray

/-- The markup of a page, with the ids of the request. -/
def markup (renderer : Renderer) (r : Request) (page : ByteArray) : Except TypesetError String :=
  match renderer page with
  | .error e => .error (.render e)
  | .ok text => .ok ((Markup.namespaced? text r.fingerprint).getD text)

/-- Typesets a request and renders the page. -/
def render (t : Typesetter σ) (renderer : Renderer) (r : Request) : Attempt :=
  match t.typeset r with
  | (.error e, traffic) => { result := .error e, traffic, page := none }
  | (.ok typeset, traffic) => { result := markup renderer r typeset.page, traffic, page := some typeset.page }

end Typesetter
end Galley
