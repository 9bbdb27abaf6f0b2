import Galley.Text.Blank

/-! A package to load ahead of the picture: a name and perhaps an option list, written `name` or `name[options]`.
The first opening bracket ends the name and the last character must be the closing one, so option texts may
themselves hold brackets. -/
namespace Galley

structure Package where
  name : String
  /-- The option list without its brackets. -/
  options : Option String
  deriving DecidableEq

namespace Package

/-- A text that is no package spec; it is kept without its outer blanks. -/
structure Invalid where
  text : String

def Invalid.message (e : Invalid) : String :=
  "invalid package spec '" ++ e.text ++ "': expected name or name[options]"

/-- The name and the bracketed rest of a spec, the rest starting with the first bracket. -/
def splitSpec (cs : List Char) : List Char × List Char :=
  (cs.takeWhile (· != '['), cs.dropWhile (· != '['))

/-- Reads a spec whose outer blanks are gone. -/
def parseTrimmed (cs : List Char) : Option Package :=
  match splitSpec cs with
  | (name, []) => if name.isEmpty || name.contains ']' then none else some ⟨.ofList name, none⟩
  | (name, _ :: inner) =>
    let name := Text.trimList name
    let options := inner.dropLast
    if inner.getLast? != some ']' || name.isEmpty then none
    else some ⟨.ofList name, if options.isEmpty then none else some (.ofList options)⟩

/-- Reads a spec. -/
def parse (s : String) : Except Invalid Package :=
  match parseTrimmed (Text.trimList s.toList) with
  | some p => .ok p
  | none => .error ⟨Text.trim s⟩

/-- One setting as it stands in an option list: `key=value`, or the bare key. -/
def setting : String × Option String → String
  | (key, some value) => key ++ "=" ++ value
  | (key, none) => key

/-- The package with its option list made of settings; no settings, or only empty ones that leave nothing to
write, leave the options as they are. -/
def withSettings (p : Package) (settings : List (String × Option String)) : Package :=
  let joined := String.intercalate "," (settings.map setting)
  if joined.isEmpty then p else { p with options := some joined }

end Package
end Galley
