import Galley.Disk
import Std.Data.HashMap

/-! Asset stores: sources of stored bytes, asked by name. -/
namespace Galley

/-- Why a store has nothing to give for a name. -/
inductive StoreError where
  | notFound
  | io (cause : IoError)
  deriving DecidableEq

/-- A source of stored bytes. -/
abbrev Store := String → Except StoreError ByteArray

namespace Store

/-- The store that a table is. -/
def ofTable (table : Std.HashMap String ByteArray) : Store := fun name =>
  match table[name]? with
  | some bytes => .ok bytes
  | none => .error .notFound

/-- The store that a directory is: names are paths below it. -/
def ofDirectory (d : Disk) (root : String) : Store := fun name =>
  match d.read (Disk.join root name) with
  | .ok bytes => .ok bytes
  | .error .notFound => .error .notFound
  | .error cause => .error (.io cause)

end Store
end Galley
