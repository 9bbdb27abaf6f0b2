import Galley.CommandLine.Run
import Galley.Guest.Assembly

/-! The command line program: it loads the files that the command can look at, carries out the command on them, and
writes what has changed. -/
namespace Galley.Main

/-- The tree that a path leads to, if it leads anywhere. Links are followed, up to `depth` directories deep. -/
def load : Nat → String → IO (Option FileTree)
  | 0, _ => pure none
  | depth + 1, path => do
    try
      let place := (← IO.currentDir) / path
      if ← place.isDir then
        let mut entries := #[]
        for entry in ← place.readDir do
          if let some t ← load depth (path ++ "/" ++ entry.fileName) then
            entries := entries.push (entry.fileName, t)
        pure (some (.directory entries.toList))
      else pure (some (.file (← IO.FS.readBinFile path)))
    catch _ => pure none

/-- How deep directories are looked into. -/
def depth : Nat := 32

/-- The paths that the settings name. A renderer may look at anything below the working directory. -/
def pathsOf (s : CommandLine.Settings) : List String :=
  let ofCommand := match s.command with
    | .render picture _ cache output => "." :: picture.input.toList ++ cache.toList ++ output.toList
    | .page picture output => picture.input.toList ++ [output]
    | .fingerprint picture => picture.input.toList
  s.assets :: s.config.toList ++ s.fonts.toList ++ ofCommand

/-- The working directory, with the files that the settings name. Devices are there already. -/
def gather (s : CommandLine.Settings) : IO Disk := do
  let mut d := Disk.withHere (Disk.namesOf (← IO.currentDir).toString)
  for path in pathsOf s do
    unless path.startsWith "/dev/" || path.startsWith "/proc/" do
      if let some node ← load depth path then
        d := d.set (d.start path ++ (Disk.namesOf path).filter (· != ".")) node
  pure d

/-- Standard input is read, as the source of the picture or under a name that leads to it. -/
def readsInput (s : CommandLine.Settings) : Bool :=
  s.command.picture.input.isNone ||
    (pathsOf s).any fun path => (Disk.fresh.locate path).toOption == some Disk.inputDevice

/-- Writes the files that differ. -/
def scatter (old new : Disk) : IO Unit := do
  let before := old.root.files
  for (path, content) in new.root.files do
    let same := (List.lookup path before).any fun c => c.data == content.data
    unless same || path.startsWith "dev/" do
      let names := path.splitOn "/"
      unless names.length ≤ 1 do IO.FS.createDirAll ("/" ++ String.intercalate "/" names.dropLast)
      IO.FS.writeBinFile ("/" ++ path) content

/-- The variables of the environment that the program reads. -/
def variableNames : List String :=
  ["TEXBOX_ASSETS", "TEXBOX_CONFIG", "TEXBOX_FONTS", "TEXBOX_RENDERER", "TEXBOX_CACHE_DIR", "NO_COLOR",
    "XDG_CACHE_HOME", "HOME", "PATH"]

/-- Those of them that are set. -/
def environment : IO CommandLine.Environment := do
  let mut known := #[]
  for name in variableNames do
    if let some value ← IO.getEnv name then known := known.push (name, value)
  pure known.toList

/-- Runs the program. -/
def run (words : List String) : IO UInt32 := do
  let environment ← environment
  let (disk, isRead) ← match CommandLine.Settings.ofWords words environment with
    | .ok s => pure (← gather s, readsInput s)
    | .error _ => pure (Disk.fresh, false)
  let input ← if isRead then (← IO.getStdin).readBinToEnd else pure .empty
  let reply := CommandLine.run Program.compile { words, environment, input, disk }
  (← IO.getStdout).write reply.output
  (← IO.getStderr).write reply.report
  scatter disk reply.disk
  pure (UInt32.ofNat reply.status)

end Galley.Main

def main (words : List String) : IO UInt32 := Galley.Main.run words
