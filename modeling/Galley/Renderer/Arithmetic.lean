/-! Integer formulas of shell scripts: their reading, by the precedence of operators, and their values in 64 bits. -/
namespace Galley

/-- An integer formula. -/
inductive Formula where
  | number (n : Int)
  | named (name : String)
  | unary (operator : Char) (body : Formula)
  | binary (operator : String) (left right : Formula)
  | choice (condition yes no : Formula)
  /-- Stores the value, combined with the old one by an operator if there is one. -/
  | assign (name operator : String) (value : Formula)

namespace Formula

/-- The operators between two operands with their precedence, longer ones before their fronts. -/
def operators : List (String × Nat) :=
  [("||", 1), ("&&", 2), ("==", 6), ("!=", 6), ("<<", 8), (">>", 8), ("<=", 7), (">=", 7), ("<", 7), (">", 7),
    ("|", 3), ("^", 4), ("&", 5), ("+", 9), ("-", 9), ("*", 10), ("/", 10), ("%", 10)]

/-- The operators that may stand before the sign of an assignment. -/
def assigning : List String := ["", "*", "/", "%", "+", "-", "<<", ">>", "&", "^", "|"]

/-- The operator at the front, and what follows it. The front of an assignment is none. -/
def operatorAt? (cs : List Char) : Option (String × Nat × List Char) := do
  let ((op, level), rest) ← operators.findSome? fun o => (o.1.toList.isPrefixOf? cs).map (o, ·)
  if rest.head? == some '=' && assigning.contains op then none else some (op, level, rest)

/-- The assignment at the front behind a name: its operator, and what follows it. -/
def assignmentAt? (cs : List Char) : Option (String × List Char) :=
  assigning.findSome? fun op =>
    match (op ++ "=").toList.isPrefixOf? cs with
    | some rest => if op.isEmpty && rest.head? == some '=' then none else some (op, rest)
    | none => none

def skipBlanks (cs : List Char) : List Char := cs.dropWhile fun c => c == ' ' || c == '\t' || c == '\n'

def isNameStart (c : Char) : Bool := c.isAlpha || c == '_'
def isNameChar (c : Char) : Bool := c.isAlphanum || c == '_'

/-- The value of digits of a base below seventeen. -/
def digitsValue (base : Nat) (cs : List Char) : Nat :=
  cs.foldl (fun n c => base * n + (if c.isDigit then c.toNat - 0x30 else c.toLower.toNat - 0x57)) 0

def greatest : Nat := Nat.pow 2 63 - 1

/-- The digits at the front, decimal, octal behind a zero, hexadecimal or binary: their value, and what follows
them. -/
def digitsAt (cs : List Char) : Nat × List Char :=
  let isHex (c : Char) := c.isDigit || ('a' ≤ c.toLower && c.toLower ≤ 'f')
  let read (base : Nat) (p : Char → Bool) (cs : List Char) : Nat × List Char :=
    (digitsValue base (cs.takeWhile p), cs.dropWhile p)
  match cs with
  | '0' :: x :: d :: rest =>
    let isBit (c : Char) := c == '0' || c == '1'
    if (x == 'x' || x == 'X') && isHex d then read 16 isHex (d :: rest)
    else if (x == 'b' || x == 'B') && isBit d then read 2 isBit (d :: rest)
    else read 8 (fun c => '0' ≤ c && c ≤ '7') cs
  | '0' :: rest => read 8 (fun c => '0' ≤ c && c ≤ '7') ('0' :: rest)
  | cs => read 10 Char.isDigit cs

/-- The number at the front; one that is too great counts as the greatest there is. -/
def numberAt (cs : List Char) : Int × List Char :=
  let (n, rest) := digitsAt cs
  (Int.ofNat (min greatest n), rest)

/-- How loosely an operand may be bound: an assignment, a choice, or operators from a precedence on. -/
inductive Level where
  | loose
  | chosen
  | bound (level : Nat)
  | tight

/-- Reads a formula of a level. The failure says what was expected. -/
def read : Nat → Level → List Char → Except String (Formula × List Char)
  | 0, _, _ => .error "expecting primary"
  | fuel + 1, .loose, cs =>
    let cs := skipBlanks cs
    let name := cs.takeWhile isNameChar
    match (if cs.head?.any isNameStart then assignmentAt? (skipBlanks (cs.drop name.length)) else none) with
    | some (op, rest) => do
      let (value, rest) ← read fuel .loose rest
      .ok (.assign (.ofList name) op value, rest)
    | none => read fuel .chosen cs
  | fuel + 1, .chosen, cs => do
    let (condition, rest) ← read fuel (.bound 1) cs
    match skipBlanks rest with
    | '?' :: rest => do
      let (yes, rest) ← read fuel .loose rest
      match skipBlanks rest with
      | ':' :: rest => do
        let (no, rest) ← read fuel .chosen rest
        .ok (.choice condition yes no, rest)
      | _ => .error "expecting ':'"
    | rest => .ok (condition, rest)
  | fuel + 1, .bound least, cs => do
    let (left, rest) ← read fuel .tight cs
    chain fuel least left rest
  | fuel + 1, .tight, cs =>
    match skipBlanks cs with
    | '(' :: rest => do
      let (inner, rest) ← read fuel .loose rest
      match skipBlanks rest with
      | ')' :: rest => .ok (inner, rest)
      | _ => .error "expecting ')'"
    | c :: rest =>
      if ['+', '-', '!', '~'].contains c then
        (read fuel .tight rest).map fun (body, rest) => (.unary c body, rest)
      else if c.isDigit then
        let (n, rest) := numberAt (c :: rest)
        .ok (.number n, rest)
      else if isNameStart c then
        .ok (.named (.ofList ((c :: rest).takeWhile isNameChar)), (c :: rest).dropWhile isNameChar)
      else .error "expecting primary"
    | [] => .error "expecting primary"
where
  /-- Goes on with the operators that bind at least as tightly. -/
  chain (fuel least : Nat) (left : Formula) (cs : List Char) : Except String (Formula × List Char) :=
    match fuel with
    | 0 => .ok (left, cs)
    | fuel + 1 =>
      match operatorAt? (skipBlanks cs) with
      | some (op, level, rest) =>
        if level < least then .ok (left, cs)
        else do
          let (right, rest) ← read fuel (.bound (level + 1)) rest
          chain fuel least (.binary op left right) rest
      | none => .ok (left, cs)

/-- The formula that a text spells. -/
def ofText (text : String) : Except String Formula := do
  let (f, rest) ← read (8 * text.length + 8) .loose text.toList
  if (skipBlanks rest).isEmpty then .ok f else .error "expecting EOF"

/-- Why a formula has no value. -/
inductive Flaw where
  | divisionByZero
  /-- A variable holds this, which is no number. -/
  | notNumber (text : String)
  /-- A variable cannot be set. -/
  | refused (message : String)

/-- An integer as it fits 64 bits. -/
def wrap (n : Int) : Int := n.bmod (Nat.pow 2 64)

def truth (b : Bool) : Int := if b then 1 else 0

/-- The value of two operands. Bits and shifts are those of 64-bit words. -/
def combine (op : String) (a b : Int) : Except Flaw Int :=
  let word (n : Int) : Nat := (n % Int.ofNat (Nat.pow 2 64)).toNat
  let places := (b % 64).toNat
  match op with
  | "+" => .ok (wrap (a + b))
  | "-" => .ok (wrap (a - b))
  | "*" => .ok (wrap (a * b))
  | "/" => if b == 0 then .error .divisionByZero else .ok (wrap (a.tdiv b))
  | "%" => if b == 0 then .error .divisionByZero else .ok (wrap (a.tmod b))
  | "<<" => .ok (wrap (a * Int.ofNat (Nat.pow 2 places)))
  | ">>" => .ok (a.fdiv (Int.ofNat (Nat.pow 2 places)))
  | "<" => .ok (truth (decide (a < b)))
  | ">" => .ok (truth (decide (a > b)))
  | "<=" => .ok (truth (decide (a ≤ b)))
  | ">=" => .ok (truth (decide (a ≥ b)))
  | "==" => .ok (truth (a == b))
  | "!=" => .ok (truth (a != b))
  | "&" => .ok (wrap (Int.ofNat (word a &&& word b)))
  | "^" => .ok (wrap (Int.ofNat (word a ^^^ word b)))
  | "|" => .ok (wrap (Int.ofNat (word a ||| word b)))
  | _ => .ok b

/-- The number that a variable holds; an empty one holds zero. -/
def numberOf (text : String) : Except Flaw Int :=
  let cs := skipBlanks text.toList
  let (isNegative, ds) := match cs with
    | '-' :: ds => (true, ds)
    | '+' :: ds => (false, ds)
    | ds => (false, ds)
  if cs.isEmpty then .ok 0
  else
    let (n, rest) := numberAt ds
    if ds.head?.any Char.isDigit && (skipBlanks rest).isEmpty then .ok (if isNegative then -n else n)
    else .error (.notNumber text)

/-- How a state holds variables: what a name stands for, and the state with a variable set, unless that is
refused. -/
structure Holder (σ : Type) where
  find : σ → String → Option String
  store : σ → String → String → Except String σ

/-- The value of a formula, and the state after it. -/
def value {σ : Type} (h : Holder σ) (state : σ) : Formula → Except Flaw (Int × σ)
  | number n => .ok (n, state)
  | named name => (numberOf ((h.find state name).getD "")).map (·, state)
  | unary op body => do
    let (n, state) ← value h state body
    let m := if op == '-' then wrap (-n) else if op == '!' then truth (n == 0) else if op == '~' then -n - 1 else n
    .ok (m, state)
  | binary op left right => do
    let (a, state) ← value h state left
    if op == "&&" then
      if a == 0 then .ok (0, state) else (value h state right).map fun (b, state) => (truth (b != 0), state)
    else if op == "||" then
      if a != 0 then .ok (1, state) else (value h state right).map fun (b, state) => (truth (b != 0), state)
    else
      let (b, state) ← value h state right
      (combine op a b).map (·, state)
  | choice condition yes no => do
    let (c, state) ← value h state condition
    if c != 0 then value h state yes else value h state no
  | assign name op body => do
    let (b, state) ← value h state body
    let n ← if op.isEmpty then .ok b
      else do combine op (← numberOf ((h.find state name).getD "")) b
    match h.store state name (toString n) with
    | .ok state => .ok (n, state)
    | .error message => .error (.refused message)

end Formula
end Galley
