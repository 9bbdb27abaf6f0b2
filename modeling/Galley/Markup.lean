import Galley.Request.Fingerprint
import Galley.Text.Alphanumeric

/-! Making a rendering fit to share a document with others. Renderers number their elements `pgf1`, `pgf2`, …;
every id so declared, and every reference that starts like one, gets the front of the fingerprint inserted after
`pgf`. The soft-hyphen reference is replaced by the one that the fonts mean. -/
namespace Galley.Markup

/-- The character before an attribute name lets it start there: it is not part of a longer name. -/
def isBoundary : Option Char → Bool
  | none => true
  | some c => !(Text.isAlphanumeric c || c == '_' || c == '-')

/-- What is left of an attribute value from its closing quote on is no longer than the value. -/
theorem length_dropWhile_le (value : List Char) (p : Char → Bool) : (value.dropWhile p).length ≤ value.length :=
  (List.dropWhile_sublist p).length_le

/-- What follows `pgf` in the ids that a text declares, in order; `before` is the character in front of the text.
Ids that end right after `pgf` do not count, and nothing after a quote that is never closed. -/
def declared (before : Option Char) : List Char → List (List Char)
  | [] => []
  | 'i' :: 'd' :: '=' :: '"' :: 'p' :: 'g' :: 'f' :: value =>
    match closing : value.dropWhile (· != '"') with
    | [] => []
    | _ :: more =>
      have : more.length < value.length := by
        have := length_dropWhile_le value (· != '"')
        simp only [closing, List.length_cons] at this
        omega
      let suffix := value.takeWhile (· != '"')
      let found := declared (some '"') more
      if isBoundary before && !suffix.isEmpty then suffix :: found else found
  | c :: rest => declared (some c) rest
termination_by text => text.length

/-- Inserts a name after every `pgf` that a declared suffix follows. -/
def insertName (name : List Char) (suffixes : List (List Char)) : List Char → List Char
  | [] => []
  | 'p' :: 'g' :: 'f' :: rest =>
    let mark := if suffixes.any (·.isPrefixOf rest) then name else []
    'p' :: 'g' :: 'f' :: mark ++ insertName name suffixes rest
  | c :: rest => c :: insertName name suffixes rest

/-- Replaces the soft-hyphen reference. -/
def replaceHyphens : List Char → List Char
  | [] => []
  | '&' :: '#' :: '1' :: '7' :: '3' :: ';' :: rest => "&#172;".toList ++ replaceHyphens rest
  | c :: rest => c :: replaceHyphens rest

/-- A text with its ids renamed and its hyphens replaced. -/
def rename (name : List Char) (text : List Char) : List Char :=
  replaceHyphens (insertName name (declared none text) text)

/-- The markup of the request with this fingerprint; `none` when the fingerprint has no short form. -/
def namespaced? (markup : String) (f : Fingerprint) : Option String :=
  f.short?.map fun name => .ofList (rename name.toList markup.toList)

end Galley.Markup
