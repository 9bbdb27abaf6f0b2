import Galley.Renderer.Count
import Galley.Renderer.Echo

/-! The program that translates, deletes and squeezes bytes. Its operands spell sequences of bytes: single ones,
ranges, classes with a name, and repeats. -/
namespace Galley
namespace Tool

/-- An element of an operand. -/
inductive Element where
  | byte (b : UInt8)
  | range (first last : UInt8)
  | named (name : String)
  /-- A byte with those that are like it, of which there are none. -/
  | alike (b : UInt8)
  /-- A byte some times; zero stands for as often as needed. -/
  | repeats (b : UInt8) (n : Nat)

/-- The classes of bytes that have a name. -/
def byteClass? (name : String) : Option (UInt8 → Bool) :=
  let c (b : UInt8) := Char.ofNat b.toNat
  match name with
  | "lower" => some fun b => b < 0x80 && (c b).isLower
  | "upper" => some fun b => b < 0x80 && (c b).isUpper
  | "digit" => some fun b => (c b).isDigit
  | "alpha" => some fun b => b < 0x80 && (c b).isAlpha
  | "alnum" => some fun b => b < 0x80 && (c b).isAlphanum
  | "space" => some fun b => b == 0x20 || (0x09 ≤ b && b ≤ 0x0D)
  | "blank" => some fun b => b == 0x20 || b == 0x09
  | "cntrl" => some fun b => b < 0x20 || b == 0x7F
  | "print" => some isPrintable
  | "graph" => some fun b => isPrintable b && b != 0x20
  | "punct" => some fun b => isPrintable b && b != 0x20 && !(c b).isAlphanum
  | "xdigit" => some fun b => (c b).isDigit || (0x41 ≤ b && b ≤ 0x46) || (0x61 ≤ b && b ≤ 0x66)
  | _ => none

def allBytes : List UInt8 := (List.range 256).map UInt8.ofNat

/-- The greatest number of bytes in a set. -/
def maxSet : Nat := Nat.pow 2 64 - 2

/-- So many repeats are more than any set that is written out needs. -/
def maxRepeats : Nat := Nat.pow 2 20

/-- The bytes that an element stands for, in order. -/
def Element.bytes : Element → List UInt8
  | byte b | alike b => [b]
  | range a b => allBytes.filter fun x => a ≤ x && x ≤ b
  | named name => match byteClass? name with
    | some p => allBytes.filter p
    | none => []
  | repeats b n => List.replicate (min n maxRepeats) b

/-- How many bytes an element stands for. -/
def Element.size : Element → Nat
  | repeats _ n => n
  | e => e.bytes.length

/-- A byte of an operand, and whether it was written as an escape. -/
abbrev Mark := UInt8 × Bool

/-- The first byte of an operand, perhaps with a warning, and what follows it. An octal number has at most three
digits, and fewer if it would not fit a byte. -/
def markAt? : List UInt8 → Option (Mark × Option String × List UInt8)
  | [] => none
  | [0x5C] => some ((0x5C, false), some "an unescaped backslash at end of string is not portable", [])
  | 0x5C :: b :: rest =>
    let c := Char.ofNat b.toNat
    if '0' ≤ c && c ≤ '7' then
      let (three, left) := digits 8 3 0 (b :: rest)
      if three < 256 then some ((UInt8.ofNat three, true), none, left)
      else
        let (value, left) := digits 8 2 0 (b :: rest)
        let taken := String.ofList (((b :: rest).take 2).map fun d => Char.ofNat d.toNat)
        let next := (Char.ofNat (left.headD 0).toNat).toString
        let warning := "the ambiguous octal escape \\" ++ taken ++ next ++
          " is being\n\tinterpreted as the 2-byte sequence \\0" ++ taken ++ ", " ++ next
        some ((UInt8.ofNat value, true), some warning, left)
    else some (((letterEscapes.lookup c).getD b, true), none, rest)
  | b :: rest => some ((b, false), none, rest)

/-- The bytes of an operand with the escapes resolved, each perhaps with a warning, over a fuel of at least their
number. -/
def marksOf : Nat → List UInt8 → List (Mark × Option String)
  | 0, _ => []
  | fuel + 1, bytes =>
    match markAt? bytes with
    | none => []
    | some (mark, warning, rest) => (mark, warning) :: marksOf fuel rest

/-- The bytes up to a mark and a closing bracket, and what follows these. -/
def untilMark (mark : UInt8) : List Mark → Option (List UInt8 × List Mark)
  | (a, x) :: (b, y) :: rest =>
    if a == mark && !x && b == 0x5D && !y then some ([], rest)
    else (untilMark mark ((b, y) :: rest)).map fun (bytes, rest) => (a :: bytes, rest)
  | _ => none

/-- Bytes in a complaint, without quotes around them. -/
def visible (bytes : List UInt8) : String :=
  String.join (bytes.map fun b => if isPrintable b then (Char.ofNat b.toNat).toString else "\\" ++ escapeOf b)

/-- The end of a range in a complaint. -/
def visibleEnd (b : UInt8) : String :=
  if isPrintable b then (Char.ofNat b.toNat).toString else "\\" ++ octalOf b

def textOf (bytes : List UInt8) : String := .ofList (bytes.map fun b => Char.ofNat b.toNat)

/-- The repeat that starts behind an opening bracket, if there is one, and what follows it. -/
def repeatAt? (l : Locale) (marks : List Mark) : Except String (Option (Element × List Mark)) :=
  match marks with
  | (b, _) :: (0x2A, false) :: rest =>
    let ds := rest.takeWhile fun (d, e) => d != 0x5D && !e
    match rest.drop ds.length with
    | (0x5D, false) :: after =>
      let text := (textOf (ds.map (·.1))).toList
      let base := if text.head? == some '0' then 8 else 10
      let count := text.foldl (fun n d => base * n + (d.toNat - 0x30)) 0
      if count ≤ maxSet && text.all fun d => d.isDigit && d.toNat - 0x30 < base then
        .ok (some (.repeats b count, after))
      else .error ("invalid repeat count " ++ quotedWord l (bytesOf (visible (ds.map (·.1)))) ++ " in [c*n] construct")
    | _ => .ok none
  | _ => .ok none

/-- The class at the front, if there is one. A class that cannot be is the failure, unless it spells a repeat. -/
def classAt? (l : Locale) (marks : List Mark) : Except String (Option (Element × List Mark)) :=
  let orRepeat (rest : List Mark) (message : String) : Except String (Option (Element × List Mark)) :=
    match repeatAt? l rest with
    | .ok (some found) => .ok (some found)
    | _ => .error message
  match marks with
  | (0x5B, false) :: (0x3A, false) :: rest =>
    match untilMark 0x3A rest with
    | none => repeatAt? l ((0x3A, false) :: rest)
    | some ([], _) => .error "missing character class name '[::]'"
    | some (name, after) =>
      if (byteClass? (textOf name)).isSome then .ok (some (.named (textOf name), after))
      else orRepeat ((0x3A, false) :: rest) ("invalid character class " ++ quotedWord l (bytesOf (visible name)))
  | (0x5B, false) :: (0x3D, false) :: rest =>
    match untilMark 0x3D rest with
    | none => repeatAt? l ((0x3D, false) :: rest)
    | some ([], _) => .error "missing equivalence class character '[==]'"
    | some ([b], after) => .ok (some (.alike b, after))
    | some (bytes, _) =>
      orRepeat ((0x3D, false) :: rest) (visible bytes ++ ": equivalence class operand must be a single character")
  | (0x5B, false) :: rest => repeatAt? l rest
  | _ => .ok none

/-- The elements of an operand. What has less than three bytes left is bytes alone. -/
def elements (l : Locale) : Nat → List Mark → Except String (List Element)
  | 0, _ => .ok []
  | fuel + 1, marks =>
    match marks with
    | (a, _) :: second :: (b, _) :: rest =>
      match classAt? l marks with
      | .error message => .error message
      | .ok (some (e, rest)) => do .ok (e :: (← elements l fuel rest))
      | .ok none =>
        if second == (0x2D, false) then
          if b < a then
            .error ("range-endpoints of '" ++ visibleEnd a ++ "-" ++ visibleEnd b ++
              "' are in reverse collating sequence order")
          else do .ok (.range a b :: (← elements l fuel rest))
        else do .ok (.byte a :: (← elements l fuel (marks.drop 1)))
    | marks => .ok (marks.map fun (b, _) => .byte b)

/-- The elements that a text spells. -/
def elementsOf (l : Locale) (s : String) : Except String (List Element) :=
  let bytes := bytesOf s
  elements l (bytes.length + 1) ((marksOf (bytes.length + 1) bytes).map (·.1))

/-- What a text is warned of. -/
def warningsOf (s : String) : List String :=
  let bytes := bytesOf s
  (marksOf (bytes.length + 1) bytes).filterMap (·.2)

def Element.isClass : Element → Bool
  | named _ => true
  | _ => false

/-- A class of letters in one case. -/
def Element.isCase : Element → Bool
  | named "lower" | named "upper" => true
  | _ => false

def Element.isAlike : Element → Bool
  | alike _ => true
  | _ => false

/-- A repeat that is as long as needed. -/
def Element.isOpen : Element → Bool
  | repeats _ 0 => true
  | _ => false

/-- The places where classes of one case start. -/
def casePlaces (place : Nat) : List Element → List Nat
  | [] => []
  | e :: rest => (if e.isCase then [place] else []) ++ casePlaces (place + e.bytes.length) rest

def Element.bytesOfAll (es : List Element) : List UInt8 := es.flatMap Element.bytes

/-- What a job translates. -/
structure Exchange where
  complements : Bool
  truncates : Bool
  first : List Element
  second : List Element

/-- The bytes of the first operand. -/
def Exchange.olds (x : Exchange) : List UInt8 :=
  let bytes := Element.bytesOfAll x.first
  if x.complements then allBytes.filter (! bytes.contains ·) else bytes

/-- The second operand, its open repeat as long as the first operand needs. -/
def Exchange.filled (x : Exchange) : List Element :=
  let missing := x.olds.length - (Element.bytesOfAll x.second).length
  x.second.map fun
    | .repeats b 0 => .repeats b missing
    | e => e

/-- The bytes of the second operand, and its last byte repeated. -/
def Exchange.news (x : Exchange) : List UInt8 :=
  let bytes := Element.bytesOfAll x.filled
  if x.truncates then bytes else bytes ++ List.replicate (x.olds.length - bytes.length) (bytes.getLast?.getD 0)

/-- Why the operands do not fit each other. -/
def Exchange.flaw? (x : Exchange) : Option String :=
  let shorter := (Element.bytesOfAll x.second).length < x.olds.length && !x.second.any Element.isOpen
  if x.second.any Element.isAlike then some "[=c=] expressions may not appear in string2 when translating"
  else if x.second.any fun e => e.isClass && !e.isCase then
    some "when translating, the only character classes that may appear in\nstring2 are 'upper' and 'lower'"
  else if !x.complements && (casePlaces 0 x.filled).any fun p =>
      p ≤ x.olds.length && !((casePlaces 0 x.first).contains p) then
    some "misaligned [:upper:] and/or [:lower:] construct"
  else if shorter && !x.truncates && x.second.isEmpty then
    some "when not truncating set1, string2 must be non-empty"
  else if shorter && !x.truncates && x.second.getLast?.any Element.isClass then
    some "when translating with string1 longer than string2,\nthe latter string must not end with a character class"
  else if x.complements && x.first.any Element.isClass &&
      !(x.news.length == x.olds.length && x.news.all (x.news.head? == some ·)) then
    some "when translating with complemented character classes,\nstring2 must map all characters in the domain to one"
  else none

/-- Repeats of a byte of a set become one. -/
def squeeze (set : List UInt8) (bytes : List UInt8) : List UInt8 :=
  (bytes.foldl (fun (out : List UInt8) b => if out.head? == some b && set.contains b then out else b :: out) []).reverse

/-- Replaces each byte by the partner of the last of its places in a table. -/
def translate (pairs : List (UInt8 × UInt8)) : List UInt8 → List UInt8 :=
  let table := pairs.foldl (fun (t : Array UInt8) (a, b) => t.setIfInBounds a.toNat b) allBytes.toArray
  List.map fun b => table[b.toNat]?.getD b

def trChoices : List Choice :=
  [{ letter := 'c', name := "complement" }, { letter := 'C' }, { letter := 'A' }, { letter := 'd', name := "delete" },
    { letter := 's', name := "squeeze-repeats" }, { letter := 't', name := "truncate-set1" }]

/-- What becomes of the input. -/
def transformed (l : Locale) (chosen : Chosen) (a : String) (b : Option String) (input : List UInt8) :
    Except String (List UInt8) := do
  let first ← elementsOf l a
  let second ← b.elim (.ok []) (elementsOf l)
  let deletes := chosen.has 'd'
  let squeezes := chosen.has 's'
  let x : Exchange := { complements := chosen.has 'c' || chosen.has 'C', truncates := chosen.has 't', first, second }
  let isTooLarge (es : List Element) := maxSet < es.foldl (fun n e => n + e.size) 0
  if isTooLarge first then .error "too many characters in set"
  else if first.any Element.isOpen then .error "the [c*] repeat construct may not appear in string1"
  else if isTooLarge second then .error "too many characters in set"
  else if (second.filter Element.isOpen).length > 1 then
    .error "only one [c*] repeat construct may appear in string2"
  else if deletes || b.isNone then
    if second.any Element.isOpen then .error "the [c*] construct may appear in string2 only when translating"
    else
      let kept := if deletes then input.filter (! x.olds.contains ·) else input
      .ok (if squeezes then squeeze (if b.isSome then Element.bytesOfAll second else x.olds) kept else kept)
  else
    match x.flaw? with
    | some message => .error message
    | none =>
      let out := translate (x.olds.zip x.news) input
      .ok (if squeezes then squeeze x.news out else out)

/-- Translates, deletes or squeezes bytes. -/
def tr : Tool := fun j =>
  let chosen := choicesInFront trChoices j.arguments
  match chosen.rest with
  | .error message => j.misused message
  | .ok sets =>
    let deletes := chosen.has 'd'
    let squeezes := chosen.has 's'
    let quoted (s : String) := j.quotedWord (bytesOf s)
    let run (a : String) (b : Option String) :=
      let isRead := (elementsOf j.locale a).toOption.isSome
      let warnings := warningsOf a ++ (if isRead then b.elim [] warningsOf else [])
      let o := match transformed j.locale chosen a b j.input.data.toList with
        | .ok bytes =>
          match j.inputKind with
          | .failing cause => j.refuses ("read error: " ++ Job.wording cause)
          | _ => { j.prints bytes.toByteArray with rest := .empty }
        | .error message => j.refuses message
      { o with written := warnings.map (fun w => j.complaint ("warning: " ++ w)) ++ o.written }
    match sets with
    | [] => j.misused "missing operand"
    | [a] =>
      if deletes == squeezes then
        j.misused ("missing operand after " ++ quoted a ++ "\n" ++
          (if deletes then "Two strings must be given when both deleting and squeezing repeats."
            else "Two strings must be given when translating."))
      else run a none
    | [a, b] =>
      if deletes && !squeezes then
        j.misused ("extra operand " ++ quoted b ++
          "\nOnly one string may be given when deleting without squeezing repeats.")
      else run a (some b)
    | _ :: b :: c :: _ => j.misused ("extra operand " ++ quoted (if deletes && !squeezes then b else c))

end Tool
end Galley
