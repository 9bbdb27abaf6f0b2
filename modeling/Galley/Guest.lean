import Galley.Memory

/-! The guest: an engine that the host runs and does not trust. It computes on its own state and on the memory it
shares with the host, and it reaches the host only by the calls listed here. The host in turn reaches it only by
its five exports. A guest is deterministic: what it does next is a function of its state and the memory.

A guest that misses a file leaves its main function as soon as the call returns, keeping what it needs to come
back to the same call; `startUnwind` and `startRewind` tell it that it has to, and where its saved stack lies. -/
namespace Galley

/-- Why a guest stops on its own. -/
inductive Trap where
  | unreachable
  | outOfBounds
  | stackExhausted
  deriving DecidableEq

def Trap.message : Trap → String
  | unreachable => "wasm trap: wasm `unreachable` instruction executed"
  | outOfBounds => "wasm trap: out of bounds memory access"
  | stackExhausted => "wasm trap: call stack exhausted"

/-- A call of the host, with arguments in `α`. Files are named by handles; a negative handle is the console. -/
inductive Call (α : Type) where
  /-- Open the file whose name lies in memory for reading. -/
  | reset (length pointer : α)
  /-- Open the file whose name lies in memory for writing. -/
  | rewrite (length pointer : α)
  | close (handle : α)
  | atEnd (handle : α)
  | atLineEnd (handle : α)
  | status (handle : α)
  | get (handle pointer length : α)
  | put (handle pointer length : α)
  | inputLine (handle bypass buffer first last reserve capacity : α)
  /-- Print the bytes behind the length byte at an address. -/
  | printString (handle pointer : α)
  | printChar (handle char : α)
  | printInteger (handle value : α)
  /-- Print a real number, given by its bits. -/
  | printReal (handle : α) (bits : UInt64)
  | printBoolean (handle value : α)
  | printNewline (handle : α)
  /-- Minutes since midnight, day, month and year. -/
  | minutes
  | day
  | month
  | year
  /-- The engine has reached its final end. -/
  | finalEnd

namespace Call

/-- The call with its arguments changed. -/
def map {α β : Type} (f : α → β) : Call α → Call β
  | reset length pointer => .reset (f length) (f pointer)
  | rewrite length pointer => .rewrite (f length) (f pointer)
  | close handle => .close (f handle)
  | atEnd handle => .atEnd (f handle)
  | atLineEnd handle => .atLineEnd (f handle)
  | status handle => .status (f handle)
  | get handle pointer length => .get (f handle) (f pointer) (f length)
  | put handle pointer length => .put (f handle) (f pointer) (f length)
  | inputLine handle bypass buffer first last reserve capacity =>
    .inputLine (f handle) (f bypass) (f buffer) (f first) (f last) (f reserve) (f capacity)
  | printString handle pointer => .printString (f handle) (f pointer)
  | printChar handle char => .printChar (f handle) (f char)
  | printInteger handle value => .printInteger (f handle) (f value)
  | printReal handle bits => .printReal (f handle) bits
  | printBoolean handle value => .printBoolean (f handle) (f value)
  | printNewline handle => .printNewline (f handle)
  | minutes => .minutes
  | day => .day
  | month => .month
  | year => .year
  | finalEnd => .finalEnd

/-- The call reads or writes guest memory. -/
def usesMemory {α : Type} : Call α → Bool
  | reset .. | rewrite .. | get .. | put .. | inputLine .. | printString .. => true
  | _ => false

end Call

/-- What a guest does at the end of a step. -/
inductive Move where
  /-- It goes on computing. -/
  | goOn
  | call (call : Call Int32)
  /-- It returns from its main function. -/
  | leave
  | trap (cause : Trap)
  /-- It computes for ever. -/
  | spin

/-- A step of a guest: the state and the memory that it leaves, and what it does then. -/
structure Action (σ : Type) where
  state : σ
  memory : Memory
  move : Move

/-- How a guest takes the return of a call. -/
inductive Return (σ : Type) where
  | goOn (state : σ)
  /-- It returns from its main function. -/
  | leave (state : σ)

/-- An export. -/
inductive Export where
  | main
  | startUnwind
  | stopUnwind
  | startRewind
  | stopRewind
  deriving DecidableEq

namespace Export

/-- The exports in the order in which they are looked up. -/
def all : List Export := [main, startUnwind, stopUnwind, startRewind, stopRewind]

def label : Export → String
  | main => "main"
  | startUnwind => "asyncify_start_unwind"
  | stopUnwind => "asyncify_stop_unwind"
  | startRewind => "asyncify_start_rewind"
  | stopRewind => "asyncify_stop_rewind"

end Export

/-- A call of an export; the saved stack is at the address. -/
inductive Entry where
  | main
  | startUnwind (address : Int32)
  | stopUnwind
  | startRewind (address : Int32)
  | stopRewind

/-- The export that an entry goes through. -/
def Entry.toExport : Entry → Export
  | main => .main
  | startUnwind _ => .startUnwind
  | stopUnwind => .stopUnwind
  | startRewind _ => .startRewind
  | stopRewind => .stopRewind

/-- A guest with states `σ`. -/
structure Guest (σ : Type) where
  /-- An export is called. Entering the main function does not yet execute any of it. -/
  enter : Entry → σ → Except Trap σ
  /-- A step inside the main function. -/
  step : σ → Memory → Action σ
  /-- The function behind an export calls others, so that it needs a stack. -/
  callsOn : Export → Bool
  /-- A call of the host returns, with a result if it has one. -/
  resume : σ → Option Int32 → Return σ

/-- An engine: a guest, and what has to be done and to hold before its main function can be entered. -/
structure Engine (σ : Type) where
  guest : Guest σ
  /-- The number of pages of its memory lies between these. -/
  minPages : Nat
  maxPages : Nat
  /-- Every import that it asks for is one of the host's. -/
  isLinked : Bool
  /-- Bytes laid over the memory, with their offsets. -/
  data : List (Nat × ByteArray)
  initial : σ
  /-- The start function, step by step. -/
  start : List (σ → Memory → Action σ)
  /-- The start function calls others. -/
  startCallsOn : Bool
  /-- The state in which the start function leaves the engine ready. -/
  ready : σ → σ
  exports : Export → Bool

end Galley
