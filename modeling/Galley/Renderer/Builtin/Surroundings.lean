import Galley.Renderer.Builtin.Options

/-! The commands of the shell that deal with its surroundings: the working directory, the rights of new files, and
limits. -/
namespace Galley
namespace Shell

/-! ## The working directory -/

/-- The directory that a path leads to. -/
def directory? (s : Shell) (path : String) : Option (List String) :=
  if path.isEmpty then some s.disk.here
  else
    match s.disk.locate (wide path), s.disk.find (wide path) with
    | .ok names, .ok (.directory _) => some names
    | _, _ => none

/-- Moves to a directory. -/
def moveTo (s : Shell) (names : List String) : Shell :=
  let exported (name value : String) (s : Shell) : Shell :=
    s.modify name fun v => { v with value := some value, isExported := true }
  let s := exported "OLDPWD" (placeOf s.disk) s
  let s := { s with disk := { s.disk with here := names } }
  exported "PWD" (placeOf s.disk) s

/-- The directories that a path may start from, each with the mark that it is shown. -/
def startsOf (s : Shell) (path : String) : List (String × Bool) :=
  let isFixed := (["/", "./", "../"].any fun front => path.startsWith front) || path == "." || path == ".."
  let others := if isFixed then [] else ((s.bound? "CDPATH").getD "").toList.splitOn ':'
  (others.filter (! ·.isEmpty)).map (fun cs => (.ofList cs, true)) ++ [("", false)]

def changeDirectory (s : Shell) (arguments : List String) : Shell :=
  s.withOptions "LP" "" arguments fun given =>
    let (path, isShown) := match given.rest with
      | [] => ((s.bound? "HOME").getD "", false)
      | "-" :: _ => ((s.bound? "OLDPWD").getD "", true)
      | path :: _ => (path, false)
    let found := (s.startsOf path).findSome? fun (start, shows) =>
      (s.directory? (Disk.join start path)).map (·, shows)
    match found with
    | some (names, shows) =>
      let s := (s.moveTo names).withStatus 0
      if isShown || shows then s.say (placeOf s.disk ++ "\n") else s
    | none => s.fail ("can't cd to " ++ path)

def showDirectory (s : Shell) (arguments : List String) : Shell :=
  s.withOptions "LP" "" arguments fun _ => (s.say (placeOf s.disk ++ "\n")).withStatus 0

/-! ## Rights and limits -/

/-- The letters of the rights that a number grants, and the number of letters. -/
def rightsText (n : Nat) : String :=
  (if n / 4 % 2 == 1 then "r" else "") ++ (if n / 2 % 2 == 1 then "w" else "") ++ (if n % 2 == 1 then "x" else "")

def rightsOf (cs : List Char) : Option Nat :=
  cs.foldlM (fun n c =>
    match c with
    | 'r' => some (n ||| 4)
    | 'w' => some (n ||| 2)
    | 'x' => some (n ||| 1)
    | _ => none) 0

/-- Changes granted rights as a clause tells: who gets or loses which. -/
def granted (rights : Nat) (clause : List Char) : Option Nat := do
  let who := clause.takeWhile ['u', 'g', 'o', 'a'].contains
  let (op, letters) ← match clause.drop who.length with
    | op :: letters => if ['+', '-', '='].contains op then some (op, letters) else none
    | [] => none
  let digit ← match letters with
    | ['u'] => some (rights / 64 % 8)
    | ['g'] => some (rights / 8 % 8)
    | ['o'] => some (rights % 8)
    | letters => rightsOf letters
  let means (c : Char) : Bool := who.isEmpty || who.contains c || who.contains 'a'
  let changed (place : Nat) (c : Char) : Nat :=
    let old := rights / place % 8
    let new := if op == '+' then old ||| digit else if op == '-' then old - (old &&& digit) else digit
    place * (if means c then new else old)
  some (changed 64 'u' + changed 8 'g' + changed 1 'o')

/-- Sets or shows the rights that new files do not get. -/
def umask (s : Shell) (arguments : List String) : Shell :=
  s.withOptions "S" "" arguments fun given =>
    let octal (n : Nat) : String :=
      String.ofList ([n / 512 % 8, n / 64 % 8, n / 8 % 8, n % 8].map Nat.digitChar)
    let s := s.withStatus 0
    match given.rest with
    | [] =>
      let rights := 0o777 - s.mask
      if given.has 'S' then
        s.say ("u=" ++ rightsText (rights / 64) ++ ",g=" ++ rightsText (rights / 8 % 8) ++ ",o=" ++
          rightsText (rights % 8) ++ "\n")
      else s.say (octal s.mask ++ "\n")
    | mode :: _ =>
      if mode.toList.head?.any Char.isDigit then
        if mode.toList.all fun c => '0' ≤ c && c ≤ '7' then
          { s with mask := (mode.toList.foldl (fun n c => 8 * n + (c.toNat - 0x30)) 0) % 512 }
        else s.fail ("Illegal number: " ++ mode)
      else
        match ((mode.toList.splitOn ',').filter (! ·.isEmpty)).foldlM granted (0o777 - s.mask) with
        | some rights => { s with mask := 0o777 - rights }
        | none => s.fail ("Illegal mode: " ++ mode)

/-- The letters of limits. -/
def limits : String := "HSatfdsmcpnvwr"

/-- Shows or sets a limit. None of them is reached here. -/
def ulimit (s : Shell) (arguments : List String) : Shell :=
  s.withOptions limits "" arguments fun given =>
    match given.rest with
    | [] => (s.say "unlimited\n").withStatus 0
    | value :: _ =>
      if value == "unlimited" || (value.toList.all Char.isDigit && !value.isEmpty) then s.withStatus 0
      else s.fail "bad number"

/-- Shows the time that was spent, which is none that can be told. -/
def showTimes (s : Shell) : Shell :=
  let line := "0m0.000000s 0m0.000000s\n"
  (s.say (line ++ line)).withStatus 0

end Shell
end Galley
