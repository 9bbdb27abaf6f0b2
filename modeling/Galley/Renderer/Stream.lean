import Galley.Renderer.Job
import Galley.Renderer.Script

/-! What streams work on. Several streams may share one place in a file or one end of a pipe, and go on where the
others left it. -/
namespace Galley

/-- What a stream works on. -/
inductive Handle where
  /-- A pipe or a text that is read, with what is left of it. -/
  | source (rest : ByteArray)
  /-- A pipe that is written, with what is in it. -/
  | sink (written : ByteArray)
  /-- A file, with the place up to which it was read or written. -/
  | file (names : List String) (place : Nat) (opening : Opening)
  | device (d : Device)

namespace Handle

/-- The content that is left to read. -/
def content (disk : Disk) : Handle → Except IoError ByteArray
  | source rest => .ok rest
  | sink _ => .error .badStream
  | file _ _ (.write _) | file _ _ .append => .error .badStream
  | file names place _ =>
    match disk.root.node? names with
    | some (.file bytes) => .ok (bytes.extract place bytes.size)
    | some (.directory _) => .error .isDirectory
    | _ => .ok .empty
  | device d => .ok (Disk.deviceContent d)

/-- The stream after its content was read but for a rest. -/
def past (disk : Disk) (rest : ByteArray) : Handle → Handle
  | source _ => source rest
  | h@(file names place opening) =>
    file names (place + ((h.content disk).toOption.getD .empty).size - rest.size) opening
  | h => h

/-- Bytes laid over others from a place on, which may lie behind the end. -/
def overlaid (old : ByteArray) (place : Nat) (bytes : ByteArray) : ByteArray :=
  splice (old ++ zeros (place - old.size)) place bytes

/-- Writes bytes. -/
def write (disk : Disk) (bytes : ByteArray) : Handle → Except IoError (Handle × Disk)
  | source _ | file _ _ .read => .error .badStream
  | sink written => .ok (sink (written ++ bytes), disk)
  | file names place opening =>
    let old := match disk.root.node? names with
      | some (.file old) => old
      | _ => .empty
    let place := if opening matches .append then old.size else place
    .ok (file names (place + bytes.size) opening, disk.set names (.file (overlaid old place bytes)))
  | device d => if d == .full && !bytes.isEmpty then .error .noSpace else .ok (device d, disk)

/-- The file that is worked on. -/
def file? : Handle → Option (List String)
  | file names _ _ => some names
  | _ => none

/-- What the stream is as an input. -/
def kind (disk : Disk) (h : Handle) : InputKind :=
  match h.content disk with
  | .error e => .failing e
  | .ok _ => if h.file?.isSome then .file else .pipe

end Handle
end Galley
