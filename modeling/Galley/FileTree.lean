/-! Trees of directories and files, addressed by lists of names. -/
namespace Galley

/-- A device, which keeps nothing of what is written to it. -/
inductive Device where
  /-- It reads as nothing. -/
  | null
  /-- It reads as zeros without end. -/
  | zero
  /-- It reads so too, and has no room for what is written. -/
  | full
  deriving DecidableEq

inductive FileTree where
  | file (content : ByteArray)
  /-- The entries of a directory, no name twice. -/
  | directory (entries : List (String × FileTree))
  | device (d : Device)

namespace FileTree

def empty : FileTree := directory []

def isDirectory : FileTree → Bool
  | directory _ => true
  | _ => false

def isFile : FileTree → Bool
  | file _ => true
  | _ => false

def isDevice : FileTree → Bool
  | device _ => true
  | _ => false

/-- The node that a list of names leads to. -/
def node? : FileTree → List String → Option FileTree
  | t, [] => some t
  | directory entries, name :: rest => (entries.lookup name).bind (node? · rest)
  | _, _ :: _ => none

/-- Puts a node under a name, in the place of the one there. -/
def setEntry (name : String) (t : FileTree) : List (String × FileTree) → List (String × FileTree)
  | [] => [(name, t)]
  | (n, old) :: more => if n == name then (n, t) :: more else (n, old) :: setEntry name t more

/-- Puts a node at the end of a list of names; directories are made on the way, and a file on the way stops it. -/
def set (t : FileTree) (names : List String) (new : FileTree) : FileTree :=
  match names with
  | [] => new
  | name :: rest =>
    match t with
    | directory entries => directory (setEntry name (set ((entries.lookup name).getD empty) rest new) entries)
    | other => other

/-- Takes away the node at the end of a list of names. -/
def remove (t : FileTree) (names : List String) : FileTree :=
  match names with
  | [] => t
  | name :: rest =>
    match t with
    | directory entries =>
      if rest.isEmpty then directory (entries.filter (·.1 != name))
      else
        match entries.lookup name with
        | none => directory entries
        | some child => directory (setEntry name (remove child rest) entries)
    | other => other

mutual
/-- All files with their paths; `above` is the path of the node with a slash at its end. -/
def filesBelow (above : String) : List (String × FileTree) → List (String × ByteArray)
  | [] => []
  | (name, t) :: more => nodeFiles (above ++ name) t ++ filesBelow above more

/-- The files of one node. -/
def nodeFiles (path : String) : FileTree → List (String × ByteArray)
  | file content => [(path, content)]
  | directory entries => filesBelow (path ++ "/") entries
  | device _ => []
end

/-- All files of a tree with their paths. -/
def files : FileTree → List (String × ByteArray)
  | directory entries => filesBelow "" entries
  | _ => []

end FileTree
end Galley
