import Galley.Renderer.Shell

/-! Conditions of the shell on texts, numbers and files. -/
namespace Galley
namespace Condition

def unaryOperators : List String :=
  ["-n", "-z", "-b", "-c", "-d", "-e", "-f", "-g", "-h", "-k", "-L", "-p", "-r", "-s", "-u", "-w", "-x", "-O", "-G",
    "-S", "-t"]

def binaryOperators : List String :=
  ["=", "!=", "<", ">", "-eq", "-ne", "-lt", "-le", "-gt", "-ge", "-nt", "-ot", "-ef"]

/-- The number that a word spells, with blanks around it perhaps. -/
def number (word : String) : Except String Int :=
  let cs := word.toList.dropWhile fun c => c == ' ' || c == '\t' || c == '\n'
  let cs := (cs.reverse.dropWhile fun c => c == ' ' || c == '\t' || c == '\n').reverse
  let (isNegative, ds) := match cs with
    | '-' :: ds => (true, ds)
    | '+' :: ds => (false, ds)
    | ds => (false, ds)
  match (if ds.all Char.isDigit then (String.ofList ds).toNat? else none) with
  | some n =>
    if n ≤ Formula.greatest then .ok (if isNegative then -Int.ofNat n else Int.ofNat n)
    else .error ("Illegal number: " ++ word)
  | none => .error ("Illegal number: " ++ word)

/-- What an operator says of the file that a word names. -/
def ofFile (s : Shell) (op word : String) : Bool :=
  let path := Shell.wide word
  let names := (s.disk.locate path).toOption
  match names.bind Disk.streamOf?, (s.disk.find path).toOption with
  | some stream, _ =>
    match s.handle? stream with
    | some (_, .source _) | some (_, .sink _) => op == "-p" || ["-e", "-r", "-w", "-O", "-G"].contains op
    | some (_, .device _) => op == "-c" || ["-e", "-r", "-w", "-O", "-G"].contains op
    | some (_, .file _ _ _) => ["-f", "-e", "-r", "-w", "-O", "-G"].contains op
    | none => false
  | none, none => false
  | none, some node =>
    match op with
    | "-e" | "-r" | "-w" | "-O" | "-G" => true
    | "-f" => node.isFile
    | "-d" => node.isDirectory
    | "-c" => node.isDevice
    | "-s" => match node with
      | .file bytes => bytes.size > 0
      | node => node.isDirectory
    | "-x" => node.isDirectory || names.any fun names =>
        Disk.toolDirectories.contains names.dropLast && names.getLast?.any Disk.toolNames.contains
    | _ => false

/-- What an operator says of a word. -/
def unary (s : Shell) (op word : String) : Except String Bool :=
  match op with
  | "-n" => .ok !word.isEmpty
  | "-z" => .ok word.isEmpty
  | "-t" => (number word).map fun _ => false
  | op => .ok (ofFile s op word)

/-- What an operator says of two words. -/
def binary (s : Shell) (a op b : String) : Except String Bool :=
  let numbers (f : Int → Int → Bool) : Except String Bool := do .ok (f (← number a) (← number b))
  match op with
  | "=" => .ok (a == b)
  | "!=" => .ok (a != b)
  | "<" => .ok (decide (a < b))
  | ">" => .ok (decide (b < a))
  | "-eq" => numbers (· == ·)
  | "-ne" => numbers (· != ·)
  | "-lt" => numbers fun x y => decide (x < y)
  | "-le" => numbers fun x y => decide (x ≤ y)
  | "-gt" => numbers fun x y => decide (x > y)
  | "-ge" => numbers fun x y => decide (x ≥ y)
  | "-ef" =>
    match s.disk.locate (Shell.wide a), s.disk.locate (Shell.wide b) with
    | .ok x, .ok y => .ok (x == y && (s.disk.root.node? x).isSome)
    | _, _ => .ok false
  | _ => .ok false

/-- A condition that has been read: its value, the words left, and the last word that belongs to it. -/
structure Read where
  value : Bool
  rest : List String
  last : String

/-- An operator of one word that is meant as such, because a word follows it and no comparison. -/
def isUnaryAt : List String → Bool
  | [op, _] => unaryOperators.contains op
  | op :: next :: _ :: _ => unaryOperators.contains op && !binaryOperators.contains next
  | _ => false

/-- From loose to tight. -/
inductive Level where
  | either
  | both
  | negated
  | single

/-- Reads a condition of a level. -/
def read (s : Shell) : Nat → Level → List String → Except String Read
  | 0, _, ws => .ok { value := false, rest := ws, last := "" }
  | fuel + 1, .either, ws => do
    let r ← read s fuel .both ws
    match r.rest with
    | "-o" :: rest => do
      let more ← read s fuel .either rest
      .ok { more with value := r.value || more.value }
    | _ => .ok r
  | fuel + 1, .both, ws => do
    let r ← read s fuel .negated ws
    match r.rest with
    | "-a" :: rest => do
      let more ← read s fuel .both rest
      .ok { more with value := r.value && more.value }
    | _ => .ok r
  | fuel + 1, .negated, ws =>
    match ws with
    | "!" :: rest => (read s fuel .negated rest).map fun r => { r with value := !r.value }
    | ws => read s fuel .single ws
  | fuel + 1, .single, ws =>
    match ws with
    | [] => .ok { value := false, rest := [], last := "" }
    | a :: rest =>
      if isUnaryAt ws then
        (unary s a (rest.headD "")).map fun value => { value, rest := rest.drop 1, last := rest.headD "" }
      else
        match rest with
        | op :: more =>
          if binaryOperators.contains op then
            match more with
            | b :: more => (binary s a op b).map fun value => { value, rest := more, last := b }
            | [] => .error (op ++ ": argument expected")
          else if a == "(" then do
            let r ← read s fuel .either rest
            match r.rest with
            | ")" :: left => .ok { r with rest := left, last := ")" }
            | _ => .error "closing paren expected"
          else .ok { value := !a.isEmpty, rest, last := a }
        | [] => .ok { value := !a.isEmpty, rest := [], last := a }

/-- Whether a condition holds, if it is one. -/
def holds (s : Shell) (words : List String) : Except String Bool := do
  let r ← read s (4 * words.length + 4) .either words
  if r.rest.isEmpty then .ok r.value
  else .error ((if r.last.isEmpty then "" else r.last ++ ": ") ++ "unexpected operator")

end Condition
end Galley
