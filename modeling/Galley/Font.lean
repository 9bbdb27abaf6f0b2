import Galley.File.Name
import Galley.Disk
import Std.Data.HashMap

/-! Sources of font metrics. The engine opens a metric file for every font it touches; a source answers some of
these names without any file being stored. -/
namespace Galley

/-- What a source knows: the metric bytes of a font, by the font's name without extension. -/
abbrev FontSource := String → Option ByteArray

/-- Metric bytes by font name. -/
abbrev FontTable := Std.HashMap String ByteArray

/-- The source that knows no font. -/
def FontSource.empty : FontSource := fun _ => none

namespace FontTable

/-- The font a file of a font directory is for: the name without its extension, if that is the font extension
and something stands before it. -/
def fontOfFile? (name : String) : Option String :=
  let font := String.ofList (name.toList.take (name.length - FileName.fontExtension.length))
  if FileName.isFontMetric name && !font.isEmpty then some font else none

/-- The table of the metric files among some files. -/
def ofFiles (files : List (String × ByteArray)) : FontTable :=
  files.foldl (fun table (name, content) =>
    match fontOfFile? name with
    | some font => table.insert font content
    | none => table) ∅

/-- The table of the metric files in a directory. -/
def ofDirectory (d : Disk) (path : String) : Except IoError FontTable := (d.filesIn path).map ofFiles

/-- The source that a table is. -/
def source (table : FontTable) : FontSource := fun font => table[font]?

end FontTable
end Galley
