import Galley.Request.Package

/-! A request: the body of a picture and the options that shape the document around it. Two bodies that differ
only in line-end style or in outer white space are the same request; `Request.body` is their common form. -/
namespace Galley

/-- What shapes the document around a picture. -/
structure Options where
  /-- Packages in loading order. -/
  packages : List Package
  /-- Drawing libraries in loading order. -/
  libraries : List String
  /-- Free text for the preamble. -/
  preamble : Option String
  /-- Options of the picture environment. -/
  pictureOptions : Option String
  /-- Show what the engine prints on its console. -/
  showConsole : Bool
  deriving DecidableEq

/-- No packages, no libraries, no texts, a silent console. -/
def Options.plain : Options :=
  { packages := [], libraries := [], preamble := none, pictureOptions := none, showConsole := false }

/-- A picture to typeset. -/
structure Request where
  source : String
  options : Options
  deriving DecidableEq

/-- A text with every carriage return that stands directly before a line feed removed. -/
def joinLineEnds : List Char → List Char
  | [] => []
  | '\r' :: '\n' :: rest => '\n' :: joinLineEnds rest
  | c :: rest => c :: joinLineEnds rest

/-- The normal form of a source: line ends joined, then outer blanks removed. -/
def normalize (cs : List Char) : List Char := Text.trimList (joinLineEnds cs)

/-- The source in its normal form. -/
def Request.body (r : Request) : String := .ofList (normalize r.source.toList)

end Galley
