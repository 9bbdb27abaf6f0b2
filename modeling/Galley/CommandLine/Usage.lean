import Galley.CommandLine.Switch
import Galley.Text.Terminal

/-! The usage of the program and of its commands. In short, what is said about the switches stands in one column;
in full, it takes up lines of its own, with a blank line between the switches. The words to be typed are bold, and
the headings are underlined too; who must not have that takes the control sequences out of the whole. -/
namespace Galley.CommandLine

/-- Variables of the environment. -/
abbrev Environment := List (String × String)

/-- The environment variable of a switch with what it holds, and the value that holds without both. -/
structure Standard where
  source : Option String
  value : Option String

/-- What is said about a switch. -/
structure Description where
  letter : Option Char
  name : String
  /-- What follows the name: how the value is called, or that the switch can be repeated. -/
  form : String
  text : String
  standard : Standard
  /-- The values there are, each with what it means. -/
  choices : List (String × String)

/-- A description without a standard value and without choices. -/
def Description.simple (letter : Option Char) (name form text : String) : Description :=
  { letter, name, form, text, standard := { source := none, value := none }, choices := [] }

/-- The log formats. -/
def logFormats : List (String × String) :=
  [("pretty", "Multi-line human-readable output"), ("compact", "One line per event, no timestamps"),
    ("json", "JSON lines")]

/-- The renderer that is used when none is named. -/
def standardRenderer : String := "dvisvgm --stdin --stdout --no-fonts --exact-bbox"

namespace Description

def assets : Description :=
  { letter := none, name := "--assets", form := " <ASSETS>"
    text := "Asset directory (or http(s) base URL when built with `http`)"
    standard := { source := some "TEXBOX_ASSETS", value := some "assets" }, choices := [] }

def config : Description :=
  { simple none "--config" " <CONFIG>" "Host configuration file (JSON)" with
    standard := { source := some "TEXBOX_CONFIG", value := none } }

def logFormat : Description :=
  { simple none "--log-format" " <LOG_FORMAT>" "" with
    standard := { source := none, value := some "compact" }, choices := logFormats }

def fonts : Description :=
  { simple none "--fonts" " <FONTS>" "Directory of `*.tfm` font metric files served to the engine" with
    standard := { source := some "TEXBOX_FONTS", value := none } }

def verbose : Description :=
  simple (some 'v') "--verbose" "..." "Increase log verbosity (-v info, -vv debug, -vvv trace)"

def package : Description := simple (some 'p') "--package" " <PACKAGES>" "Package to load, as `name` or `name[options]`"

def library : Description := simple (some 'l') "--library" " <LIBRARIES>" "TikZ library to load"

def preamble : Description := simple none "--preamble" " <PREAMBLE>" "Text inserted before `\\begin\x7bdocument\x7d`"

def pictureOptions : Description :=
  simple none "--tikz-options" " <TIKZ_OPTIONS>" "Options for the `tikzpicture` environment"

def showConsole : Description := simple none "--show-console" "" "Show the engine's console output"

def renderer : Description :=
  { simple none "--renderer" " <RENDERER>" "Command converting DVI on stdin to markup on stdout" with
    standard := { source := some "TEXBOX_RENDERER", value := some ("\"" ++ standardRenderer ++ "\"") } }

def cacheDirectory : Description :=
  { simple none "--cache-dir" " <CACHE_DIR>" "Directory for persisted renderings" with
    standard := { source := some "TEXBOX_CACHE_DIR", value := none } }

def noCache : Description := simple none "--no-cache" "" "Do not persist renderings"

def output (text : String) : Description := simple (some 'o') "--output" " <OUTPUT>" text

def help (full : Bool) : Description :=
  simple (some 'h') "--help" ""
    (if full then "Print help (see a summary with '-h')" else "Print help (see more with '--help')")

def version : Description := simple (some 'V') "--version" "" "Print version"

/-- The notes on standard values. -/
def notes (d : Description) (env : Environment) : List String :=
  (d.standard.source.map fun name => "[env: " ++ name ++ "=" ++ (env.lookup name).getD "" ++ "]").toList ++
    (d.standard.value.map fun value => "[default: " ++ value ++ "]").toList

/-- The note on the choices. -/
def choiceNote (d : Description) : List String :=
  if d.choices.isEmpty then []
  else ["[possible values: " ++ String.intercalate ", " (d.choices.map (·.1)) ++ "]"]

/-- A word that is to be typed as it is. -/
def literal (word : String) : String := Text.styled [1] word

/-- The front of a description: the letter and the long name. -/
def front (d : Description) : String :=
  "  " ++ (match d.letter with
    | some c => literal ("-" ++ c.toString) ++ ", "
    | none => "    ") ++ literal d.name ++ d.form

/-- How many columns a text takes up. -/
def width (text : String) : Nat := (Text.withoutControls text).length

/-- A text with blanks behind it, up to a width. -/
def padded (columns : Nat) (text : String) : String :=
  text ++ String.ofList (List.replicate (columns - width text) ' ')

/-- The width of the widest of some texts. -/
def widest (texts : List String) : Nat := ((texts.map width).max?).getD 0

/-- The list of choices with their meanings side by side. -/
def choiceLines (d : Description) : List String :=
  let columns := widest (d.choices.map (·.1)) + 2
  if d.choices.isEmpty then []
  else "Possible values:" :: d.choices.map fun (name, text) => "- " ++ padded columns (literal name ++ ":") ++ text

/-- A text, the lines of which start in the same column. -/
def indented (column : Nat) (text : String) : String :=
  String.intercalate ("\n" ++ String.ofList (List.replicate column ' '))
    ((text.toList.splitOn '\n').map String.ofList)

/-- The description in short: all that is said starts in a column. -/
def brief (column : Nat) (d : Description) (env : Environment) : String :=
  let parts := (d.text :: d.notes env ++ d.choiceNote).filter (! ·.isEmpty)
  padded column d.front ++ indented column (String.intercalate " " parts) ++ "\n"

/-- How far the second lines of a description are indented. -/
def indentation : Nat := 10

/-- The description in full: the text, the choices and the notes, with a blank line between them. The blanks of the
indentation stand in that line too. -/
def inFull (d : Description) (env : Environment) : String :=
  let parts := ([[d.text], d.choiceLines, d.notes env].map (String.intercalate "\n")).filter (! ·.isEmpty)
  indented indentation (d.front ++ "\n" ++ String.intercalate "\n\n" parts) ++ "\n"

end Description

/-- What is said about a command. -/
structure Usage where
  about : String
  /-- How the command is called. -/
  line : String
  descriptions : List Description

namespace Usage

/-- The commands with their purposes. -/
def commands : List (String × String) :=
  [("render", "Render a picture to SVG markup"), ("dvi", "Typeset only and write the DVI"),
    ("fingerprint", "Print the cache fingerprint of a request"),
    ("help", "Print this message or the help of the given subcommand(s)")]

/-- The switches of every request and those of every command, in the order in which they are listed together. -/
def shared : List Description :=
  [.assets, .package, .config, .library, .logFormat, .preamble, .fonts, .pictureOptions, .showConsole, .verbose]

/-- The usage of a command; none for what is no command with switches. -/
def ofCommand? (name : String) : Option Usage := do
  let about ← commands.lookup name
  let call (middle : String) := Description.literal ("texbox " ++ name) ++ " [OPTIONS] " ++ middle ++ "[INPUT]"
  match name with
  | "render" =>
    let own := [.renderer, .cacheDirectory, .noCache, .output "Output file; stdout when omitted"]
    some { about, line := call "", descriptions := shared ++ own }
  | "dvi" =>
    let line := call (Description.literal "--output" ++ " <OUTPUT> ")
    some { about, line, descriptions := shared ++ [.output ""] }
  | "fingerprint" => some { about, line := call "", descriptions := shared }
  | _ => none

/-- A heading. -/
def heading (text : String) : String := Text.styled [1, 4] text

def title (about line : String) : String := about ++ "\n\n" ++ heading "Usage:" ++ " " ++ line ++ "\n"

/-- The section on switches. -/
def options (descriptions : List Description) (env : Environment) (full : Bool) : String :=
  let column := Description.widest (descriptions.map (·.front)) + 2
  "\n" ++ heading "Options:" ++ "\n" ++ if full then String.intercalate "\n" (descriptions.map (·.inFull env))
    else String.join (descriptions.map (·.brief column env))

/-- The usage of the program. -/
def program (env : Environment) (full : Bool) : String :=
  let columns := Description.widest (commands.map (·.1)) + 2
  let rows := commands.map fun (name, about) =>
    "  " ++ Description.padded columns (Description.literal name) ++ about ++ "\n"
  title "Render TikZ pictures with a sandboxed wasm TeX engine"
      (Description.literal "texbox" ++ " [OPTIONS] <COMMAND>") ++
    "\n" ++ heading "Commands:" ++ "\n" ++ String.join rows ++
    options [.assets, .config, .logFormat, .fonts, .verbose, .help full, .version] env full

/-- The text on the picture that a command is given. -/
def inputText : String := "TikZ picture source; stdin when omitted or \"-\""

/-- The usage of a command, or of the program, for a terminal. -/
def text (command : Option String) (env : Environment) (full : Bool) : String :=
  match command with
  | none => program env full
  | some name =>
    match ofCommand? name with
    | some u =>
      title u.about u.line ++ "\n" ++ heading "Arguments:" ++ "\n  [INPUT]" ++
        (if full then Description.indented Description.indentation "\n" else "  ") ++ inputText ++ "\n" ++
        options (u.descriptions ++ [.help full]) env full
    | none =>
      title ((commands.lookup name).getD "") (Description.literal ("texbox " ++ name) ++ " [COMMAND]...") ++
        "\n" ++ heading "Arguments:" ++ "\n  [COMMAND]...  Print help for the subcommand(s)\n"

/-- The environment asks for control sequences even where no terminal is. -/
def isStyled (env : Environment) : Bool :=
  let isSet (name : String) := (env.lookup name).any fun v => !v.isEmpty
  isSet "CLICOLOR_FORCE" && !isSet "NO_COLOR"

/-- The usage of a command, or of the program, as it is printed. -/
def printed (command : Option String) (env : Environment) (full : Bool) : String :=
  let shown := text command env full
  if isStyled env then shown else Text.withoutControls shown

end Usage
end Galley.CommandLine
