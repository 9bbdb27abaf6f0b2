import Galley.Disk
import Galley.Request.Fingerprint
import Std.Data.HashMap

/-! Persistent backings of the result cache. To the cache a failed load is a load that finds nothing, and a failed
save is one that changes nothing it can see, so a backing is a state with two total functions. -/
namespace Galley

/-- A backing over states `σ`. A load may change the state too: one that fails from time to time remembers when. -/
structure Backing (σ : Type) where
  load : Fingerprint → σ → Option String × σ
  save : Fingerprint → String → σ → σ

namespace Backing

/-- No backing: nothing is found, nothing is kept. -/
def none : Backing Unit := { load := fun _ _ => (Option.none, ()), save := fun _ _ _ => () }

/-- Markup by fingerprint. -/
abbrev Shelf := Std.HashMap Fingerprint String

/-- A backing in memory whose loads, or whose saves, may all fail. -/
def shelf (failLoad failSave : Bool) : Backing Shelf :=
  { load := fun f s => (if failLoad then Option.none else s[f]?, s)
    save := fun f markup s => if failSave then s else s.insert f markup }

def extension : String := ".svg"

/-- Where a directory keeps the markup of a fingerprint. -/
def path (directory : String) (f : Fingerprint) : String := Disk.join directory (f.text ++ extension)

/-- Where markup is written before it takes its place: the extension is replaced, but a name that is nothing but
an extension counts as a name without one. A name of which only a dot stands before the extension becomes the
directory above, where nothing can be written. -/
def stagingPath (path : String) : String :=
  let base := path.toList.take (path.length - extension.length)
  let name := (base.reverse.takeWhile (· != '/')).reverse
  if name.isEmpty then path ++ extension ++ ".tmp"
  else if name == ['.'] then .ofList (base ++ ['.'])
  else path ++ ".tmp"

/-- What a directory does on a save: it is made, the markup is written aside, and then moved to its place. When a
step fails, what the earlier ones did stays. -/
def saveInto (directory : String) (f : Fingerprint) (markup : String) (d : Disk) : Disk :=
  match d.makeDirectories directory with
  | .error _ => d
  | .ok d =>
    let path := path directory f
    match d.write (stagingPath path) markup.toUTF8 with
    | .error _ => d
    | .ok d => (d.rename (stagingPath path) path).toOption.getD d

/-- One file per fingerprint in a directory. -/
def directory (directory : String) : Backing Disk :=
  { load := fun f d => ((d.readText (path directory f)).toOption, d), save := saveInto directory }

end Backing
end Galley
