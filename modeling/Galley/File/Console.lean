/-! Line-buffered console output. Text is held until a line feed comes; complete lines that are not empty go to
the transcript. -/
namespace Galley

structure Console where
  /-- Text since the last line feed. -/
  held : List Char
  /-- The lines so far. -/
  transcript : Array String

namespace Console

def empty : Console := { held := [], transcript := #[] }

/-- The non-empty lines among several. -/
def emit (transcript : Array String) (lines : List (List Char)) : Array String :=
  (lines.filter (! ·.isEmpty)).foldl (fun t line => t.push (String.ofList line)) transcript

/-- Appends text: every line feed ends a line, what follows the last one is held. -/
def write (c : Console) (text : List Char) : Console :=
  let pieces := (c.held ++ text).splitOn '\n'
  { held := pieces.getLast?.getD [], transcript := emit c.transcript pieces.dropLast }

/-- Ends the held line, if there is one. -/
def flush (c : Console) : Console := if c.held.isEmpty then c else c.write ['\n']

/-- The lines so far, and the console without them. -/
def take (c : Console) : Array String × Console := (c.transcript, { c with transcript := #[] })

end Console
end Galley
