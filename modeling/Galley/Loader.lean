import Galley.Config
import Galley.Gzip.Member
import Galley.Json.Parser
import Galley.Manifest
import Galley.Store

/-! Fetching assets. Assets are stored compressed; the loader names them, asks the store, and decompresses what it
gets. Every name asked for is recorded, whether the store had it or not. -/
namespace Galley

/-- Why an asset cannot be loaded; each holds the name that was asked for. -/
inductive LoadError where
  | notFound (name : String)
  | io (name : String) (cause : IoError)
  | inflate (name : String)
  | manifest (name : String)
  deriving DecidableEq

namespace LoadError

/-- The causes of an error, outermost first. -/
def messages : LoadError → List String
  | notFound name => ["Resource not found: " ++ name]
  | io name cause => ["Failed to read resource " ++ name ++ ": " ++ cause.message, cause.message]
  | inflate name => ["Failed to inflate resource " ++ name ++ ": corrupt deflate stream", "corrupt deflate stream"]
  | manifest name => ["Invalid manifest " ++ name ++ ": not a manifest", "not a manifest"]

def message (e : LoadError) : String := (e.messages.head?).getD ""

end LoadError

/-- The engine and the memory image it starts with. -/
structure EngineAssets where
  engine : ByteArray
  image : ByteArray

/-- A bundle is a package or a library; they differ in the directory of their manifests. -/
inductive BundleKind where
  | package
  | library
  deriving DecidableEq

/-- A load: it may fail, and leaves the names asked for so far either way. -/
abbrev Loading (α : Type) := EStateM LoadError (Array String) α

namespace Loading

/-- The result of a load, whichever it is. -/
def attempt {α : Type} (load : Loading α) : Loading (Except LoadError α) := fun asked =>
  match load asked with
  | .ok a asked => .ok (.ok a) asked
  | .error e asked => .ok (.error e) asked

end Loading

structure Loader where
  store : Store
  layout : Layout

namespace Loader

/-- The stored bytes under a name. -/
def fetch (l : Loader) (name : String) : Loading ByteArray := fun asked =>
  let asked := asked.push name
  match l.store name with
  | .ok bytes => .ok bytes asked
  | .error .notFound => .error (.notFound name) asked
  | .error (.io cause) => .error (.io name cause) asked

/-- Decompresses what was stored under a name. -/
def inflate (name : String) (bytes : ByteArray) : Loading ByteArray :=
  match Gzip.decompress? bytes with
  | some data => pure data
  | none => throw (.inflate name)

/-- The decompressed bytes under a name. -/
def fetchInflated (l : Loader) (name : String) : Loading ByteArray := do
  inflate name (← l.fetch name)

/-- The engine first, then its memory image. -/
def loadEngine (l : Loader) : Loading EngineAssets := do
  let engine ← l.fetchInflated l.layout.engine
  let image ← l.fetchInflated l.layout.snapshot
  pure { engine, image }

/-- Where a single file is stored. -/
def filePath (l : Loader) (name : String) : String := l.layout.files ++ "/" ++ name ++ ".gz"

def libraryFront : String := "tikzlibrary"
def olderLibraryFront : String := "pgflibrary"

/-- The older name of a library file, if the name is that of a library file. -/
def olderName? (name : String) : Option String :=
  (libraryFront.toList.isPrefixOf? name.toList).map fun rest => olderLibraryFront ++ .ofList rest

/-- A single file. A library file that is not found is looked for once more under its older name. -/
def fetchFile (l : Loader) (name : String) : Loading ByteArray := do
  match ← (l.fetchInflated (l.filePath name)).attempt with
  | .ok data => pure data
  | .error (.notFound missing) =>
    match olderName? name with
    | some older => l.fetchInflated (l.filePath older)
    | none => throw (.notFound missing)
  | .error e => throw e

/-- A single file for a guest that waits for it: whatever goes wrong, the file is then not there. -/
def fetchOptional (l : Loader) (name : String) : Loading (Option ByteArray) := do
  match ← (l.fetchFile name).attempt with
  | .ok data => pure (some data)
  | .error _ => pure none

def directory (l : Loader) : BundleKind → String
  | .package => l.layout.packages
  | .library => l.layout.libraries

/-- The stored manifest of a bundle with its name: the plain one or, if that is not found, the compressed one. -/
def fetchManifest (l : Loader) (kind : BundleKind) (name : String) : Loading (String × ByteArray) := do
  let plain := l.directory kind ++ "/" ++ name ++ ".json"
  match ← (l.fetch plain).attempt with
  | .ok bytes => pure (plain, bytes)
  | .error (.notFound _) =>
    let compressed := plain ++ ".gz"
    pure (compressed, ← l.fetch compressed)
  | .error e => throw e

/-- The files among these names that can be loaded, in order. -/
def fetchMembers (l : Loader) : List String → Loading (List (String × ByteArray))
  | [] => pure []
  | name :: more => do
    match ← (l.fetchFile name).attempt with
    | .ok data => pure ((name, data) :: (← l.fetchMembers more))
    | .error _ => l.fetchMembers more

/-- The files of a bundle. The manifest must be there and be well-formed; a member that cannot be loaded is left
out. A stored manifest may be compressed under either name. -/
def fetchBundle (l : Loader) (kind : BundleKind) (name : String) : Loading (List (String × ByteArray)) := do
  let (manifestName, stored) ← l.fetchManifest kind name
  let bytes ← if Gzip.isMember stored then inflate manifestName stored else pure stored
  match (Json.ofBytes? bytes).bind Manifest.ofJson? with
  | none => throw (.manifest manifestName)
  | some (.inline files) => pure (files.map fun (file, content) => (file, content.toUTF8))
  | some (.members names) => l.fetchMembers (Manifest.members names).names

end Loader
end Galley
