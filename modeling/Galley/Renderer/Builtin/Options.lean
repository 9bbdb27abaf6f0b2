import Galley.Renderer.Condition

/-! The options of the shell's own commands, and the options of the shell itself. -/
namespace Galley
namespace Shell

/-! ## Options of commands -/

/-- Letters with their values, and the arguments behind them. -/
structure Given where
  letters : List (Char × String)
  rest : List String

namespace Given

def has (g : Given) (letter : Char) : Bool := g.letters.any (·.1 == letter)

end Given

/-- Reads the options in front of arguments. Some letters take a value, which may be the next argument. -/
def options (known taking : List Char) : List String → Except String Given
  | [] => .ok { letters := [], rest := [] }
  | a :: rest =>
    match a.toList with
    | ['-', '-'] => .ok { letters := [], rest }
    | '-' :: c :: cs => do
      let (letters, taken) ← readLetters rest (c :: cs)
      let more ← options known taking (rest.drop taken)
      .ok { more with letters := letters ++ more.letters }
    | _ => .ok { letters := [], rest := a :: rest }
termination_by arguments => arguments.length
decreasing_by rw [List.length_drop, List.length_cons]; omega
where
  /-- The letters behind one hyphen, and how many arguments are the value of the last. -/
  readLetters (rest : List String) : List Char → Except String (List (Char × String) × Nat)
    | [] => .ok ([], 0)
    | c :: cs =>
      if taking.contains c then
        match cs, rest with
        | [], [] => .error ("No arg for -" ++ c.toString ++ " option")
        | [], value :: _ => .ok ([(c, value)], 1)
        | cs, _ => .ok ([(c, .ofList cs)], 0)
      else if known.contains c then
        (readLetters rest cs).map fun (letters, taken) => ((c, "") :: letters, taken)
      else .error ("Illegal option -" ++ c.toString)

/-- Goes on with the options of arguments, or fails. -/
def withOptions (s : Shell) (known taking : String) (arguments : List String) (body : Given → Shell) : Shell :=
  match options known.toList taking.toList arguments with
  | .ok given => body given
  | .error message => s.fail message

/-- A number that a status or a count can be. -/
def count (text : String) : Except String Nat := do
  let n ← Condition.number text
  if 0 ≤ n && n < Int.ofNat (Nat.pow 2 31) then .ok n.toNat else .error ("Illegal number: " ++ text)

/-- Goes on with the number that an argument spells, or fails. -/
def withCount (s : Shell) (text : String) (body : Nat → Shell) : Shell :=
  match count text with
  | .ok n => body n
  | .error message => s.fail message

/-- A text in single quotes. -/
def quoted (text : String) : String :=
  "'" ++ String.intercalate "'\"'\"'" ((text.toList.splitOn '\'').map String.ofList) ++ "'"

/-! ## Options of the shell -/

/-- The options by name and letter, in the order in which they are listed. Two of them have no letter. -/
def optionNames : List (String × Option Char) :=
  [("errexit", some 'e'), ("noglob", some 'f'), ("ignoreeof", some 'I'), ("interactive", some 'i'),
    ("monitor", some 'm'), ("noexec", some 'n'), ("stdin", some 's'), ("xtrace", some 'x'), ("verbose", some 'v'),
    ("vi", some 'V'), ("emacs", some 'E'), ("noclobber", some 'C'), ("allexport", some 'a'), ("notify", some 'b'),
    ("nounset", some 'u'), ("privileged", some 'p'), ("nolog", none), ("debug", none)]

/-- Switches an option on or off. -/
def withSwitch (s : Shell) (on : Bool) (letter : Char) : Shell :=
  let others := s.switches.filter (· != letter)
  { s with switches := if on then letter :: others else others }

/-- Switches the options of some letters on or off. -/
def switch (on : Bool) (s : Shell) : List Char → Except String Shell
  | [] => .ok s
  | c :: rest =>
    if optionNames.any (·.2 == some c) then (s.withSwitch on c).switch on rest
    else .error ("Illegal option -" ++ c.toString)

/-- Switches the option of a name on or off. -/
def switchNamed (on : Bool) (s : Shell) (name : String) : Except String Shell :=
  match optionNames.lookup name with
  | some (some letter) => .ok (s.withSwitch on letter)
  | some none => .ok s
  | none => .error ("Illegal option -o " ++ name)

/-- A name in a column. -/
def inColumn (name : String) : String := name ++ .ofList (List.replicate (16 - name.length) ' ')

/-- Shows all options, as a table or as commands that set them. -/
def showOptions (s : Shell) (asTable : Bool) : Shell :=
  let line (name : String) (letter : Option Char) : String :=
    let isOn := letter.any s.has
    if asTable then inColumn name ++ (if isOn then "on" else "off") ++ "\n"
    else "set " ++ (if isOn then "-o " else "+o ") ++ name ++ "\n"
  s.say ((if asTable then "Current option settings\n" else "") ++
    String.join (optionNames.map fun (name, letter) => line name letter))

/-- Reads the options of a shell in front of arguments; the arguments behind them, if there are any or two hyphens
say that there are none. -/
def readOptions (s : Shell) : List String → Except String (Shell × Option (List String))
  | [] => .ok (s, none)
  | "--" :: rest => .ok (s, some rest)
  | "-" :: rest => .ok ((s.withSwitch false 'x').withSwitch false 'v', if rest.isEmpty then none else some rest)
  | [a] => do
    let (on, letters) := signed a
    match letters with
    | none => .ok (s, some [a])
    | some letters =>
      let s ← s.switch on (letters.filter (· != 'o'))
      .ok (if letters.contains 'o' then s.showOptions on else s, none)
  | a :: b :: rest => do
    let (on, letters) := signed a
    match letters with
    | none => .ok (s, some (a :: b :: rest))
    | some letters =>
      let s ← s.switch on (letters.filter (· != 'o'))
      if letters.contains 'o' then (← s.switchNamed on b).readOptions rest else s.readOptions (b :: rest)
where
  /-- Whether an argument switches on, and its letters, if it is an option. -/
  signed (a : String) : Bool × Option (List Char) :=
    match a.toList with
    | '-' :: cs => (true, some cs)
    | '+' :: cs => (false, some cs)
    | _ => (true, none)

end Shell
end Galley
