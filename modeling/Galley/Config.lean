import Galley.Json.Record

/-! How a host is set up: the geometry of the guest's memory, the limits of a run, and the names under which the
assets are stored. -/
namespace Galley

/-- Names and directories inside the asset store. -/
structure Layout where
  /-- The compressed engine. -/
  engine : String
  /-- The compressed memory image. -/
  snapshot : String
  /-- Directory of single compressed files. -/
  files : String
  /-- Directory of package manifests. -/
  packages : String
  /-- Directory of library manifests. -/
  libraries : String

def Layout.standard : Layout :=
  { engine := "tex.wasm.gz", snapshot := "core.dump.gz", files := "tex_files", packages := "packages",
    libraries := "tikz_libs" }

structure Config where
  /-- The fixed size of the guest's memory. -/
  memoryPages : Nat
  /-- Pages at the top of the memory that hold a suspended guest's stack. -/
  continuationPages : Nat
  /-- The document is `<name>.tex`, the page description `<name>.dvi`. -/
  inputName : String
  /-- How much a run may compute; no limit when absent. -/
  fuelLimit : Option Nat
  maxStackSize : Nat
  /-- How many runs may be under way at once. -/
  contexts : Nat
  assets : Layout

namespace Config

/-- Bytes in a page. -/
def pageSize : Nat := 65536

/-- The largest memory whose end is still a 32-bit address. -/
def maxMemoryPages : Nat := 65535

def standard : Config :=
  { memoryPages := 1100, continuationPages := 100, inputName := "input", fuelLimit := none,
    maxStackSize := 1048576, contexts := 1, assets := .standard }

def inputFile (c : Config) : String := c.inputName ++ ".tex"

def outputFile (c : Config) : String := c.inputName ++ ".dvi"

/-- What is typed at the engine's terminal. -/
def script (c : Config) : String := " " ++ c.inputFile ++ " \n\\end\n"

/-- The host itself takes so many bytes of the stack to call the guest. -/
def stackForHost : Nat := 368

/-- The greatest stack that lies within the addresses of a process. -/
def greatestStack : Nat := Nat.pow 2 47 - 4096

/-- A guest that has been called has a stack to call others on: there is one behind what the host takes of it, and
it does not reach beyond the addresses. -/
def hasStack (c : Config) : Bool := stackForHost ≤ c.maxStackSize && c.maxStackSize < greatestStack

def memoryBytes (c : Config) : Nat := c.memoryPages * pageSize

/-- What is wrong with a configuration. -/
inductive Invalid where
  | memoryTooLarge (pages : Nat)
  | geometry (memory continuation : Nat)
  | noContexts

def Invalid.message : Invalid → String
  | memoryTooLarge pages =>
    "Memory of " ++ toString pages ++ " pages exceeds the " ++ toString maxMemoryPages ++ "-page limit"
  | geometry memory continuation =>
    "Continuation region of " ++ toString continuation ++ " pages does not fit in " ++ toString memory ++ " pages"
  | noContexts => "At least one execution context is required"

/-- The first thing wrong with a configuration: the memory may be too large, the continuation may be empty or
leave no room below it, and there may be no contexts. -/
def check (c : Config) : Except Invalid Unit :=
  if c.memoryPages > maxMemoryPages then .error (.memoryTooLarge c.memoryPages)
  else if c.continuationPages == 0 || c.continuationPages ≥ c.memoryPages then
    .error (.geometry c.memoryPages c.continuationPages)
  else if c.contexts == 0 then .error .noContexts
  else .ok ()

end Config

open Json

/-- Reads a layout; every field has a default. -/
def Layout.ofJson? (v : Json) : Option Layout := do
  let fields ← v.record? ["engine", "snapshot", "tex_files", "packages", "libraries"]
  let engine ← fields.default "engine" standard.engine text?
  let snapshot ← fields.default "snapshot" standard.snapshot text?
  let files ← fields.default "tex_files" standard.files text?
  let packages ← fields.default "packages" standard.packages text?
  let libraries ← fields.default "libraries" standard.libraries text?
  some { engine, snapshot, files, packages, libraries }

/-- Reads a configuration; every field has a default. Page counts are 32-bit, the other counts 64-bit. -/
def Config.ofJson? (v : Json) : Option Config := do
  let fields ← v.record?
    ["memory_pages", "continuation_pages", "input_name", "fuel_limit", "max_stack_size", "contexts", "assets"]
  let memoryPages ← fields.default "memory_pages" standard.memoryPages (natBelow? (Nat.pow 2 32))
  let continuationPages ← fields.default "continuation_pages" standard.continuationPages (natBelow? (Nat.pow 2 32))
  let inputName ← fields.default "input_name" standard.inputName text?
  let fuelLimit ← fields.default "fuel_limit" none (nullable? (natBelow? (Nat.pow 2 64)))
  let maxStackSize ← fields.default "max_stack_size" standard.maxStackSize (natBelow? (Nat.pow 2 64))
  let contexts ← fields.default "contexts" standard.contexts (natBelow? (Nat.pow 2 64))
  let assets ← fields.default "assets" .standard Layout.ofJson?
  some { memoryPages, continuationPages, inputName, fuelLimit, maxStackSize, contexts, assets }

end Galley
