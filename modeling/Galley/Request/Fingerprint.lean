import Galley.Blake3
import Galley.MessagePack
import Galley.Request.Basic
import Galley.Text.Hex
import Galley.Text.Utf8

/-! The fingerprint of a request: the hash of its body, one zero byte, and its options written as nested lists.
The zero byte keeps the body and the options apart although a body may hold zeros, because the options start with
a byte that cannot follow a zero in well-formed text. -/
namespace Galley

def Package.toPack (p : Package) : Pack := .list [.text p.name, .optional p.options]

/-- The options as the list of their fields. -/
def Options.toPack (o : Options) : Pack :=
  .list
    [.list (o.packages.map Package.toPack), .list (o.libraries.map .text), .optional o.preamble,
      .optional o.pictureOptions, .flag o.showConsole]

/-- The bytes that are hashed. -/
def Request.keyBytes (r : Request) : List UInt8 :=
  r.body.toUTF8.data.toList ++ 0 :: r.options.toPack.encode

/-- The key of a request: a text, in practice 64 hexadecimal digits. -/
structure Fingerprint where
  text : String
  deriving DecidableEq, Hashable

namespace Fingerprint

/-- How many bytes of a fingerprint name a rendering inside a shared document. -/
def shortLength : Nat := 12

/-- The front of a fingerprint that names a rendering; `none` when the text is not ASCII there and the cut falls
inside a character. -/
def short? (f : Fingerprint) : Option String := Text.bytePrefix? shortLength f.text

end Fingerprint

/-- The fingerprint of a request. -/
def Request.fingerprint (r : Request) : Fingerprint := ⟨Text.hexList (Blake3.hash r.keyBytes)⟩

end Galley
