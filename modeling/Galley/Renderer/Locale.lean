import Galley.Text.Utf8

/-! How programs read bytes as text: as UTF-8, or plainly, where only the bytes of ASCII are characters. The
environment decides that, and a single name in it that means nothing makes all of it plain. -/
namespace Galley

/-- A way to read bytes as text. -/
inductive Locale where
  | plain
  | utf8
  deriving DecidableEq

namespace Locale

/-- The locale of a name; none if there is no such locale. -/
def ofName? (name : String) : Option Locale :=
  if ["C", "POSIX"].contains name then some .plain
  else if ["C.UTF-8", "C.UTF8"].contains (name.map Char.toUpper) && name.startsWith "C" then some .utf8
  else none

/-- What can be set apart from the rest: how characters are read, and how things are ordered and shown. -/
def categories : List String :=
  ["CTYPE", "NUMERIC", "TIME", "COLLATE", "MONETARY", "MESSAGES", "PAPER", "NAME", "ADDRESS", "TELEPHONE",
    "MEASUREMENT", "IDENTIFICATION"].map ("LC_" ++ ·)

/-- The locale that an environment asks for: one variable is for all categories, and another for those that have no
variable of their own. -/
def ofEnvironment (environment : List (String × String)) : Locale :=
  let set? (name : String) := (environment.lookup name).filter (! ·.isEmpty)
  let locale? (category : String) :=
    ofName? (((set? "LC_ALL").or ((set? category).or (set? "LANG"))).getD "C")
  match categories.mapM locale? with
  | some (l :: _) => l
  | _ => .plain

/-- The characters of bytes. -/
def glyphs (l : Locale) (bytes : List UInt8) : List Text.Glyph :=
  match l with
  | .utf8 => Text.glyphs bytes
  | .plain => bytes.map fun b => { char := if b < 0x80 then some (Char.ofNat b.toNat) else none, bytes := [b] }

end Locale
end Galley
