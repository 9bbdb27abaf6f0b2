import Galley.CommandLine.Usage
import Galley.Disk
import Galley.Request.Basic

/-! What a command line asks for. Some switches hold for every command and can stand before the command or behind
it; some have a variable of the environment that stands in for them. -/
namespace Galley.CommandLine

/-- The parts of a request. -/
structure Picture where
  /-- The file with the source; standard input if absent. -/
  input : Option String
  options : Options

inductive Command where
  /-- Typeset a picture and render it. -/
  | render (picture : Picture) (renderer : String) (cache : Option String) (output : Option String)
  /-- Typeset a picture and keep the page description. -/
  | page (picture : Picture) (output : String)
  /-- Print the fingerprint of a picture. -/
  | fingerprint (picture : Picture)

def Command.picture : Command → Picture
  | render picture .. => picture
  | page picture _ => picture
  | fingerprint picture => picture

structure Settings where
  /-- The directory of the assets. -/
  assets : String
  /-- The configuration file. -/
  config : Option String
  /-- The directory of the font metric files. -/
  fonts : Option String
  command : Command

/-- Any text can be given. -/
def anyText : String → Bool := fun _ => true

/-- A path must not be empty. -/
def isPath (text : String) : Bool := !text.isEmpty

def isPackage (text : String) : Bool := (Package.parse text).toOption.isSome

/-- The switches of every command. -/
def commonSwitches (command : Option String) : List Switch :=
  [.valued "assets" none .value anyText, .valued "config" none .value isPath,
    .valued "log-format" none .value ((logFormats.map (·.1)).contains ·), .valued "fonts" none .value isPath,
    .flag "verbose" (some 'v') .repeats, .question "help" 'h' (.help command)]

/-- The switches that can stand before the command. -/
def programSwitches : List Switch := .question "version" 'V' (fun _ => .version) :: commonSwitches none

/-- The switches that make a request. -/
def pictureSwitches : List Switch :=
  [.valued "package" (some 'p') .values isPackage, .valued "library" (some 'l') .values anyText,
    .valued "preamble" none .value anyText, .valued "tikz-options" none .value anyText,
    .flag "show-console" none .nothing]

def outputSwitch : Switch := .valued "output" (some 'o') .value isPath

def renderSwitches : List Switch :=
  [.valued "renderer" none .value anyText, .valued "cache-dir" none .value isPath, .flag "no-cache" none .nothing]

/-- The switches of a command, by its name. -/
def switchesOf? (name : String) : Option (List Switch) :=
  let own := match name with
    | "render" => some (renderSwitches ++ [outputSwitch])
    | "dvi" => some [outputSwitch]
    | "fingerprint" => some []
    | _ => none
  own.map (commonSwitches (some name) ++ pictureSwitches ++ ·)

/-- The one value of a switch, if it was given. -/
def valueOf (items : List Item) (name : String) : Option String := (valuesOf items name).head?

/-- The switch was given. -/
def isGiven (items : List Item) (name : String) : Bool := !(valuesOf items name).isEmpty

/-- A path given by a switch or, where the switch is missing, by the environment. Several readings of the switch,
the inner first, each of which falls back on the environment, so that all of them have to be sound. -/
def pathOf (readings : List (List Item)) (env : Environment) (name variableName : String) :
    Except Refusal (Option String) :=
  let given := readings.map fun items => valueOf items name
  let resolved := given.map (· <|> env.lookup variableName)
  if resolved.all fun value => value.all isPath then .ok (given.findSome? id <|> resolved.findSome? id)
  else .error .malformed

/-- What the switches of a request make. -/
def pictureOf (items : List Item) : Picture :=
  { input := (wordsOf items).head?.filter (· != "-")
    options :=
      { packages := (valuesOf items "package").filterMap fun spec => (Package.parse spec).toOption
        libraries := valuesOf items "library", preamble := valueOf items "preamble",
        pictureOptions := valueOf items "tikz-options", showConsole := isGiven items "show-console" } }

/-- Where renderings are kept if nothing else is said: in the directory that the environment names for caches, if
that is an absolute path, and else in the user's own. -/
def shelf (env : Environment) : Option String :=
  let named := (env.lookup "XDG_CACHE_HOME").filter fun path => path.toList.head? == some '/'
  let own := ((env.lookup "HOME").filter isPath).map (Disk.join · ".cache")
  (named <|> own).map (Disk.join · "texbox")

/-- The command that a name and its switches make. -/
def commandOf (name : String) (items : List Item) (env : Environment) : Except Refusal Command := do
  let picture := pictureOf items
  let output := valueOf items "output"
  match name with
  | "render" =>
    let renderer := (valueOf items "renderer" <|> env.lookup "TEXBOX_RENDERER").getD standardRenderer
    let directory ← pathOf [items] env "cache-dir" "TEXBOX_CACHE_DIR"
    let cache := if isGiven items "no-cache" then none else directory <|> shelf env
    .ok (.render picture renderer cache output)
  | "dvi" =>
    match output with
    | some file => .ok (.page picture file)
    | none => .error .malformed
  | _ => .ok (.fingerprint picture)

/-- What is refused behind the word that asks for the usage. -/
def helpOn : List String → Refusal
  | [] => .help none true
  | [name] => if (Usage.commands.lookup name).isSome then .help (some name) true else .malformed
  | _ => .malformed

/-- Reads a command line. What stands before the command and is still to be looked at then is looked at last. -/
def Settings.ofWords (words : List String) (env : Environment) : Except Refusal Settings := do
  match ← readFront programSwitches .start words with
  | (_, none) => .error .malformed
  | (outer, some (name, rest)) =>
    if name == "help" then .error (helpOn rest)
    else
      match switchesOf? name with
      | none => .error .malformed
      | some table =>
        let inner ← readAll table .start rest
        let command ← commandOf name inner.items env
        let outer ← outer.settle
        let readings := [inner.items, outer.items]
        let config ← pathOf readings env "config" "TEXBOX_CONFIG"
        let fonts ← pathOf readings env "fonts" "TEXBOX_FONTS"
        let assets := valueOf inner.items "assets" <|> valueOf outer.items "assets" <|> env.lookup "TEXBOX_ASSETS"
        .ok { assets := assets.getD "assets", config, fonts, command }

end Galley.CommandLine
