import Galley.Bytes
import Galley.FileTree
import Galley.Text.Utf8

/-! A disk: a tree of files with a working directory in it, addressed by paths as a Unix system reads them. A path
that starts with a slash starts at the root of the tree, any other at the working directory; `..` leads up, and at
the root stays there. -/
namespace Galley

/-- Why an operation of the system fails. -/
inductive IoError where
  | notFound
  | notDirectory
  | isDirectory
  | permissionDenied
  | nameTooLong
  | noSpace
  /-- A stream has been closed, or does not lead that way. -/
  | badStream
  /-- The arguments of a program take up more than there is place for. -/
  | argumentsTooLong
  /-- A name holds a NUL. -/
  | nulByte
  /-- The words of a command hold a NUL. -/
  | nulInCommand
  /-- A text was wanted and the bytes are not UTF-8. -/
  | notText
  deriving DecidableEq

def IoError.message : IoError → String
  | notFound => "No such file or directory (os error 2)"
  | argumentsTooLong => "Argument list too long (os error 7)"
  | badStream => "Bad file descriptor (os error 9)"
  | permissionDenied => "Permission denied (os error 13)"
  | notDirectory => "Not a directory (os error 20)"
  | isDirectory => "Is a directory (os error 21)"
  | noSpace => "No space left on device (os error 28)"
  | nameTooLong => "File name too long (os error 36)"
  | nulByte => "file name contained an unexpected NUL byte"
  | nulInCommand => "nul byte found in provided data"
  | notText => "stream did not contain valid UTF-8"

structure Disk where
  root : FileTree
  /-- The names that lead to the working directory. -/
  here : List String
  /-- The directories that programs are looked for in; an empty one is the working directory. -/
  programPath : List String := ["/usr/local/bin", "/usr/bin", "/bin"]

namespace Disk

/-- The programs that every system has. -/
def toolNames : List String := ["cat", "echo", "false", "head", "printf", "sh", "sleep", "tr", "true", "wc"]

/-- A directory of programs. What is in a program is no text. -/
def toolDirectory : FileTree :=
  .directory (toolNames.map fun name => (name, .file [0x7F, 0x45, 0x4C, 0x46, 0xFF].toByteArray))

/-- The directories that programs are found in. -/
def toolDirectories : List (List String) := [["bin"], ["usr", "bin"]]

/-- Where the standard streams of a program are among the devices. -/
def inputDevice : List String := ["dev", "stdin"]
def outputDevice : List String := ["dev", "stdout"]
def errorDevice : List String := ["dev", "stderr"]

/-- The standard streams by number. -/
def streamDevices : List (List String) := [inputDevice, outputDevice, errorDevice]

/-- The directories that have the standard streams under their numbers. -/
def streamDirectories : List (List String) := [["dev", "fd"], ["proc", "self", "fd"]]

/-- The other names of the standard streams. -/
def streamNames : List (List String × List String) :=
  streamDirectories.flatMap fun directory =>
    streamDevices.zipIdx.map fun (device, n) => (directory ++ [toString n], device)

/-- The number of the stream that names lead to. -/
def streamOf? (names : List String) : Option Nat :=
  match streamDevices.findIdx? (· == names), names.getLast? with
  | some n, _ => some n
  | none, some last => if streamDirectories.contains names.dropLast then last.toNat? else none
  | none, none => none

/-- Names with another name of a standard stream replaced. -/
def resolved (names : List String) : List String := (streamNames.lookup names).getD names

/-- The devices other than the standard streams. -/
def devices : List (String × Device) :=
  [("null", .null), ("zero", .zero), ("full", .full), ("random", .zero), ("urandom", .zero)]

/-- The directories of a search path. -/
def directoriesOf (path : String) : List String := (path.toList.splitOn ':').map String.ofList

/-- A system with nothing in a working directory. -/
def withHere (here : List String) : Disk :=
  let devices := devices.map fun (name, d) => (["dev", name], FileTree.device d)
  let streams := (streamDevices ++ streamNames.map (·.1)).map (·, FileTree.file .empty)
  let others := ["boot", "etc", "home", "lib", "mnt", "opt", "proc", "root", "run", "sbin", "srv", "sys", "tmp", "var"]
  let nodes := toolDirectories.map (·, toolDirectory) ++ devices ++ streams ++ others.map ([·], .empty) ++
    [(here, .empty)]
  { root := nodes.foldl (fun t (names, node) => t.set names node) .empty, here }

/-- A system with an empty working directory. -/
def fresh : Disk := withHere ["tmp", "work"]

/-- The longest name of an entry, and the longest path, in bytes. -/
def maxName : Nat := 255
def maxPath : Nat := 4095

/-- The names in a path. -/
def namesOf (path : String) : List String := ((path.toList.splitOn '/').map String.ofList).filter (! ·.isEmpty)

/-- The path ends in a slash, so that it can only lead to a directory. -/
def wantsDirectory (path : String) : Bool := path.toList.getLast? == some '/'

/-- The steps of a path. A slash at the end asks for a directory, as a last step `.` does. -/
def steps (path : String) : List String := namesOf path ++ if wantsDirectory path then ["."] else []

/-- Where a path starts. -/
def start (d : Disk) (path : String) : List String := if path.toList.head? == some '/' then [] else d.here

/-- Follows steps from a place, given as a reversed list of names. Every step but the last must lead to a
directory. -/
def walk (t : FileTree) (place : List String) : List String → Except IoError (List String)
  | [] => .ok place.reverse
  | step :: rest =>
    match t.node? place.reverse with
    | none => .error .notFound
    | some (.directory _) =>
      if step == "." then walk t place rest
      else if step == ".." then walk t (place.drop 1) rest
      else if step.utf8ByteSize > maxName then .error .nameTooLong
      else walk t (step :: place) rest
    | some _ => .error .notDirectory

/-- A path as it is handed to the system: it must not be empty or too long. -/
def checked (path : String) : Except IoError String :=
  if path.contains '\x00' then .error .nulByte
  else if path.utf8ByteSize > maxPath then .error .nameTooLong
  else if path.isEmpty then .error .notFound
  else .ok path

/-- The names a path leads along, from the root; the last of them need not be there. -/
def locate (d : Disk) (path : String) : Except IoError (List String) := do
  let path ← checked path
  resolved <$> walk d.root (d.start path).reverse (steps path)

/-- The node a path leads to. -/
def find (d : Disk) (path : String) : Except IoError FileTree := do
  match d.root.node? (← d.locate path) with
  | some t => .ok t
  | none => .error .notFound

/-- The content of a device, as much of it as anyone looks at. -/
def deviceContent : Device → ByteArray
  | .null => .empty
  | .zero | .full => zeros (Nat.pow 2 20)

/-- The content of a file. -/
def read (d : Disk) (path : String) : Except IoError ByteArray := do
  match ← d.find path with
  | .file content => .ok content
  | .directory _ => .error .isDirectory
  | .device device => .ok (deviceContent device)

/-- The bytes as a text. -/
def asText (bytes : ByteArray) : Except IoError String :=
  match Text.utf8? bytes with
  | some s => .ok s
  | none => .error .notText

/-- The content of a file as a text. -/
def readText (d : Disk) (path : String) : Except IoError String := do asText (← d.read path)

/-- The files in a directory itself, by name; subdirectories and devices are left out. -/
def filesIn (d : Disk) (path : String) : Except IoError (List (String × ByteArray)) := do
  match ← d.find path with
  | .directory entries =>
    .ok (entries.filterMap fun
      | (name, .file content) => some (name, content)
      | _ => none)
  | _ => .error .notDirectory

/-- Puts a node at the end of a list of names from the root. -/
def set (d : Disk) (names : List String) (t : FileTree) : Disk := { d with root := d.root.set names t }

/-- The names that a file to be written has. A path that ends in a slash names a directory; that counts before the
last name is even looked for. -/
def locateForWriting (d : Disk) (path : String) : Except IoError (List String) := do
  let path ← checked path
  let place := (d.start path).reverse
  let isNamed := ((namesOf path).getLast?).any fun name => name != "." && name != ".."
  if wantsDirectory path && isNamed then
    let _ ← walk d.root place ((namesOf path).dropLast ++ ["."])
    .error .isDirectory
  else resolved <$> walk d.root place (steps path)

/-- Creates a file or replaces its content. -/
def write (d : Disk) (path : String) (content : ByteArray) : Except IoError Disk := do
  let names ← d.locateForWriting path
  match d.root.node? names with
  | some (.directory _) => .error .isDirectory
  | some (.device .full) => if content.isEmpty then .ok d else .error .noSpace
  | some (.device _) => .ok d
  | _ => .ok (d.set names (.file content))

/-- Puts a file at a path below the working directory, making the directories above it. -/
def place (d : Disk) (path : String) (content : ByteArray) : Disk :=
  d.set (d.here ++ (namesOf path).filter (· != ".")) (.file content)

/-- Makes the directories along steps from a place that are not there yet. -/
def makeAlong (t : FileTree) (place : List String) : List String → Except IoError FileTree
  | [] => .ok t
  | step :: rest => do
    let names ← walk t place.reverse [step]
    match t.node? names with
    | some (.directory _) => makeAlong t names rest
    | some _ => .error .notDirectory
    | none => makeAlong (t.set names .empty) names rest

/-- Makes a directory with all the directories above it. -/
def makeDirectories (d : Disk) (path : String) : Except IoError Disk :=
  match checked path with
  | .error .notFound => .ok d
  | .error e => .error e
  | .ok path => (makeAlong d.root (d.start path) (steps path)).map fun root => { d with root }

/-- Moves a file over another or to a free name. -/
def rename (d : Disk) (source target : String) : Except IoError Disk := do
  let content ← d.read source
  let sourceNames ← d.locate source
  let d ← d.write target content
  let targetNames ← d.locate target
  .ok (if sourceNames == targetNames then d else { d with root := d.root.remove sourceNames })

/-- A path joined to a directory: an absolute path stands for itself. -/
def join (directory path : String) : String :=
  if path.toList.head? == some '/' || directory.isEmpty then path
  else if directory.toList.getLast? == some '/' then directory ++ path
  else directory ++ "/" ++ path

/-- The disk after a file has been read. Standard input can be read only once. -/
def afterReading (d : Disk) (path : String) : Disk :=
  if (d.locate path).toOption == some inputDevice then d.set inputDevice (.file .empty) else d

/-- Takes over the files that differ between two states of a disk. -/
def adopt (d old new : Disk) : Disk :=
  let before := old.root.files
  new.root.files.foldl (fun d (path, content) =>
    if (before.lookup path).any (·.data == content.data) then d else d.set (namesOf path) (.file content)) d

/-- All files below the working directory with their paths. -/
def files (d : Disk) : List (String × ByteArray) := ((d.root.node? d.here).getD .empty).files

end Disk
end Galley
