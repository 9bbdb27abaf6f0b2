import Galley.Json.Record

/-! Manifests of packages and libraries: either a list of member files, each stored on its own, or the contents of
the files themselves under their names. -/
namespace Galley

inductive Manifest where
  /-- Names of files to fetch one by one. -/
  | members (names : List String)
  /-- Contents by name, in ascending order of the names, no name twice. -/
  | inline (files : List (String × String))

namespace Manifest

/-- Puts a file into a list ordered by name, in the place of one of the same name. -/
def insert (name content : String) : List (String × String) → List (String × String)
  | [] => [(name, content)]
  | (n, c) :: more =>
    if name < n then (name, content) :: (n, c) :: more
    else if name == n then (name, content) :: more
    else (n, c) :: insert name content more

/-- Files ordered by name; of two with one name the later counts. -/
def sorted (files : List (String × String)) : List (String × String) :=
  files.foldl (fun fs f => insert f.1 f.2 fs) []

/-- Reads a list of texts as members and an object of texts as contents. -/
def ofJson? (v : Json) : Option Manifest :=
  match v with
  | .array items => (items.mapM Json.text?).map members
  | _ => do
    let named ← v.named?
    let files ← named.mapM fun (name, v) => v.text?.map (name, ·)
    some (inline (sorted files))

/-- The files a manifest names; empty names in a list stand for nothing. -/
def names : Manifest → List String
  | members names => names.filter (! ·.isEmpty)
  | inline files => files.map Prod.fst

end Manifest
end Galley
