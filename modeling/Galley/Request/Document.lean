import Galley.Request.Basic

/-! The document the engine reads: one directive per package, one for all libraries, the preamble, and the body
inside the picture environment. Nothing is escaped; the texts are the engine's own language. -/
namespace Galley

def Package.directive (p : Package) : String :=
  match p.options with
  | some options => "\\usepackage[" ++ options ++ "]\x7b" ++ p.name ++ "\x7d"
  | none => "\\usepackage\x7b" ++ p.name ++ "\x7d"

/-- The directive that loads the libraries, if there are any. -/
def Options.libraryDirective (o : Options) : String :=
  if o.libraries.isEmpty then "" else "\\usetikzlibrary\x7b" ++ String.intercalate "," o.libraries ++ "\x7d"

/-- What stands before the body. -/
def Options.opening (o : Options) : String :=
  String.join (o.packages.map Package.directive) ++ o.libraryDirective ++ o.preamble.getD "" ++
    "\\begin\x7bdocument\x7d\\begin\x7btikzpicture\x7d" ++
    match o.pictureOptions with
    | some options => "[" ++ options ++ "]"
    | none => ""

/-- What stands after the body. -/
def Options.closing : String := "\n\\end\x7btikzpicture\x7d\\end\x7bdocument\x7d\n"

/-- The whole document of a request. -/
def Request.document (r : Request) : String := r.options.opening ++ r.body ++ Options.closing

end Galley
