import Galley.Guest.Program
import Galley.Json.Blob
import Galley.Json.Parser

/-! The stored form of programs: a signature, then the program as JSON. An instruction is a list that starts with
its name; registers and the machine's words are named by texts, and numbers stand for themselves, modulo 2³². -/
namespace Galley.Program
open Json

/-- A number as a word. -/
def word? (v : Json) : Option UInt32 := v.int?.map fun i => (Int32.ofInt i).toUInt32

def registerName (r : Register) : String := "r" ++ toString r.val

def register? (v : Json) : Option Register := do
  let name ← v.text?
  (List.finRange 16).find? fun r => registerName r == name

/-- The operand that a name stands for. -/
def named? (v : Json) : Option Operand := do
  match ← v.text? with
  | "state" => some .mode
  | "unwind_addr" => some .unwindAddress
  | "rewind_addr" => some .rewindAddress
  | _ => (register? v).map .register

def operand? (v : Json) : Option Operand :=
  match v with
  | .number _ => (word? v).map .literal
  | _ => named? v

/-- The bits of a real number, as hexadecimal digits. -/
def realBits? (v : Json) : Option UInt64 := do
  let digits ← (← v.member? "f64").text?
  (Text.hexNumber? digits.toList).map UInt64.ofNat

def call? (name : String) (arguments : List Json) : Option (Call Operand) :=
  match name, arguments with
  | "printFloat", [handle, value] => do some (.printReal (← operand? handle) (← realBits? value))
  | _, _ => do
    match name, ← arguments.mapM operand? with
    | "reset", [length, pointer] => some (.reset length pointer)
    | "rewrite", [length, pointer] => some (.rewrite length pointer)
    | "close", [handle] => some (.close handle)
    | "eof", [handle] => some (.atEnd handle)
    | "eoln", [handle] => some (.atLineEnd handle)
    | "erstat", [handle] => some (.status handle)
    | "get", [handle, pointer, length] => some (.get handle pointer length)
    | "put", [handle, pointer, length] => some (.put handle pointer length)
    | "inputln", [handle, bypass, buffer, first, last, reserve, capacity] =>
      some (.inputLine handle bypass buffer first last reserve capacity)
    | "printString", [handle, pointer] => some (.printString handle pointer)
    | "printChar", [handle, char] => some (.printChar handle char)
    | "printInteger", [handle, value] => some (.printInteger handle value)
    | "printBoolean", [handle, value] => some (.printBoolean handle value)
    | "printNewline", [handle] => some (.printNewline handle)
    | "getCurrentMinutes", [] => some .minutes
    | "getCurrentDay", [] => some .day
    | "getCurrentMonth", [] => some .month
    | "getCurrentYear", [] => some .year
    | "tex_final_end", [] => some .finalEnd
    | _, _ => none

def arithmetic? : String → Option Arithmetic
  | "add" => some .add
  | "sub" => some .sub
  | "eq" => some .equal
  | "lt" => some .less
  | _ => none

/-- The instruction with a name and its arguments. -/
def instructionOf? (name : String) (arguments : List Json) : Option Instruction := do
  match name, arguments with
  | "set", [target, value] => some (.set (← register? target) (← operand? value))
  | "load", [target, address] => some (.load (← register? target) (← operand? address))
  | "load8", [target, address] => some (.loadByte (← register? target) (← operand? address))
  | "store", [address, value] => some (.store (← operand? address) (← operand? value))
  | "store8", [address, value] => some (.storeByte (← operand? address) (← operand? value))
  | "jmp", [target] => some (.jump (← word? target))
  | "jz", [value, target] => some (.branch true (← operand? value) (← word? target))
  | "jnz", [value, target] => some (.branch false (← operand? value) (← word? target))
  | "call", [host, .array given] => some (.call (← call? (← host.text?) given) none)
  | "call", [host, .array given, target] =>
    some (.call (← call? (← host.text?) given) (← nullable? register? target))
  | "open", [host, length, pointer, target] =>
    some (.await (← call? (← host.text?) [length, pointer]) (← register? target))
  | "end", [] => some .leave
  | "trap", [] => some .trap
  | "spin", [] => some .spin
  | "recurse", [] => some .recurse
  | _, [target, a, b] =>
    some (.compute (← arithmetic? name) (← register? target) (← operand? a) (← operand? b))
  | _, _ => none

def instruction? : Json → Option Instruction
  | .array (name :: arguments) => do instructionOf? (← name.text?) arguments
  | _ => none

/-- Bytes with the offset at which they go into memory. -/
def placed? : Json → Option (Nat × ByteArray)
  | .array [offset, bytes] => do some ((← word? offset).toNat, ← bytes.blob?)
  | _ => none

/-- The exports among some names. -/
def exportNames (v : Json) : Option (List Export) :=
  (v.list? text?).map fun names => Export.all.filter fun e => names.contains e.label

/-- The least and the greatest number of pages. -/
def limits? (v : Json) : Option (Nat × Nat) := do
  match ← v.list? (natBelow? (Nat.pow 2 32)) with
  | [least, greatest] => some (least, greatest)
  | _ => none

/-- A member that has a default. -/
def member {α : Type} (v : Json) (name : String) (fallback : α) (read : Json → Option α) : Option α :=
  match v.member? name with
  | none => some fallback
  | some .null => some fallback
  | some field => read field

/-- The most pages that 32-bit addresses reach. -/
def allPages : Nat := 65536

/-- Reads a program. -/
def ofJson? (v : Json) : Option Program := do
  let code ← member v "code" [] (list? instruction?)
  let start ← member v "start" [] (list? instruction?)
  let data ← member v "data" [] (list? placed?)
  let (minPages, maxPages) ← member v "memory" (1, allPages) limits?
  let asksMore ← member v "unknown_import" false bool?
  let omitted ← member v "omit" [] exportNames
  let mistyped ← member v "bad_type" [] exportNames
  let trapping ← member v "trap_in" [] exportNames
  let onRewind ← member v "on_rewind" none (nullable? text?)
  some
    { code := code.toArray, start, data, minPages, maxPages, isLinked := !asksMore,
      omitted := omitted ++ mistyped, trapping, refusesRewind := onRewind == some "return" }

/-- The program that does nothing and exports nothing. -/
def bare : Program :=
  { code := #[], start := [], data := [], minPages := 0, maxPages := allPages, isLinked := true,
    omitted := Export.all, trapping := [], refusesRewind := false }

/-- The stored forms of the bare program: the header of an empty wasm module, and its text. -/
def bareForms : List (List UInt8) :=
  [[0x00, 0x61, 0x73, 0x6D, 0x01, 0x00, 0x00, 0x00], "(module)".toUTF8.data.toList]

/-- What the stored form of every other program starts with. -/
def signature : List UInt8 := "galley 1".toUTF8.data.toList

/-- The program with a stored form. -/
def ofBytes? (bytes : ByteArray) : Option Program :=
  let front := (bytes.extract 0 signature.length).data.toList
  if bytes.size == front.length && bareForms.contains front then some bare
  else if front == signature then
    (Json.ofBytes? (bytes.extract signature.length bytes.size)).bind ofJson?
  else none

/-- The engine with a stored form. -/
def compile (bytes : ByteArray) : Option (Engine State) := (ofBytes? bytes).map engine

end Galley.Program
