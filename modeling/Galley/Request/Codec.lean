import Galley.Json.Record
import Galley.Request.Basic

/-! Requests as JSON. Everything but the source, and the name of a package, may be left out. -/
namespace Galley
open Json

/-- Reads a package: `name`, then `options`. -/
def Package.ofJson? (v : Json) : Option Package := do
  let fields ← v.record? ["name", "options"]
  let name ← fields.required "name" text?
  let options ← fields.default "options" none (nullable? text?)
  some { name, options }

/-- Reads options. -/
def Options.ofJson? (v : Json) : Option Options := do
  let fields ← v.record? ["packages", "libraries", "preamble", "tikz_options", "show_console"]
  let packages ← fields.default "packages" [] (list? Package.ofJson?)
  let libraries ← fields.default "libraries" [] (list? text?)
  let preamble ← fields.default "preamble" none (nullable? text?)
  let pictureOptions ← fields.default "tikz_options" none (nullable? text?)
  let showConsole ← fields.default "show_console" false bool?
  some { packages, libraries, preamble, pictureOptions, showConsole }

/-- Reads a request: `source`, then `options`. -/
def Request.ofJson? (v : Json) : Option Request := do
  let fields ← v.record? ["source", "options"]
  let source ← fields.required "source" text?
  let options ← fields.default "options" .plain Options.ofJson?
  some { source, options }

/-- A text or `null`. -/
def Json.optional : Option String → Json
  | none => .null
  | some s => .text s

def Package.toJson (p : Package) : Json := .record [("name", .text p.name), ("options", .optional p.options)]

def Options.toJson (o : Options) : Json :=
  .record
    [("packages", .array (o.packages.map Package.toJson)), ("libraries", .array (o.libraries.map .text)),
      ("preamble", .optional o.preamble), ("tikz_options", .optional o.pictureOptions),
      ("show_console", .bool o.showConsole)]

/-- A request with every field written out. -/
def Request.toJson (r : Request) : Json := .record [("source", .text r.source), ("options", r.options.toJson)]

end Galley
