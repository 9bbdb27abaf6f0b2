import Galley.Text.Blank
import Galley.Text.Latin1

/-! File names as a Pascal program passes them: a padded buffer, perhaps in braces or quotes, perhaps with a
marker and a font area in front. Bytes are read as ISO-8859-1. -/
namespace Galley

/-- What a name buffer names. -/
inductive FileName where
  /-- The terminal, `TTY:`. -/
  | terminal
  | file (name : String)
  deriving DecidableEq

namespace FileName

def fontArea : List Char := "TeXfonts:".toList
def poolAlias : List Char := "TeXformats:TEX.POOL".toList
def poolFile : String := "tex.pool"
def terminalName : List Char := "TTY:".toList

/-- The text between an opening mark at the very front and the next closing mark, or everything after the
opening mark when it is never closed. A text without the opening mark stays as it is. -/
def unwrap (opening closing : Char) : List Char → List Char
  | [] => []
  | c :: rest => if c == opening then rest.takeWhile (· != closing) else c :: rest

/-- The text without a given front, if it has that front. -/
def dropFront (front cs : List Char) : List Char := (front.isPrefixOf? cs).getD cs

/-- The name a buffer spells: trailing NULs go first, then braces, then quotes, then trailing spaces, then one
marker `*`, then one font area. -/
def spelled (cs : List Char) : List Char :=
  dropFront fontArea <| dropFront ['*'] <| Text.dropTrailing (· == ' ') <|
    unwrap '"' '"' <| unwrap '\x7b' '\x7d' <| Text.dropTrailing (· == '\x00') cs

/-- What a spelled name stands for. -/
def ofSpelled (cs : List Char) : FileName :=
  if cs == terminalName then terminal
  else if cs == poolAlias then file poolFile
  else file (.ofList cs)

/-- What a name buffer stands for. -/
def parse (raw : List UInt8) : FileName := ofSpelled (spelled (Text.latin1List raw))

/-- `name` ends in `ending`. -/
def hasEnding (ending name : String) : Bool := ending.toList.isSuffixOf name.toList

def fontExtension : String := ".tfm"

/-- The name of a font metric file. -/
def isFontMetric (name : String) : Bool := hasEnding fontExtension name

/-- The name of a file that only the engine itself writes; it is never fetched. -/
def isScratch (name : String) : Bool := [".aux", ".log", ".dvi"].any fun ending => hasEnding ending name

/-- A reversed name without its font extensions, of which there may be several. -/
def dropExtensions : List Char → List Char
  | 'm' :: 'f' :: 't' :: '.' :: rest => dropExtensions rest
  | cs => cs

/-- The font whose metric file has this name. -/
def fontOf (name : String) : String := .ofList (dropExtensions name.toList.reverse).reverse

end FileName
end Galley
