import Galley.Decimal.Shortest
import Galley.Session

/-! Serving the guest's calls. Only an open can suspend the guest: when a file is not there the guest is made to
unwind, and the call returns at once with a handle that is none. When the guest comes back to the call, the file is
there or counts as not found, so no open suspends twice. -/
namespace Galley.Session
open Serving

variable {σ : Type}

/-- What an open returns to a guest that is to unwind. -/
def notReady : Int32 := -1

/-- If the guest sleeps then this is the call that missed: the rewind is over. Tells whether it was so. -/
def wakeIfSleeping (h : Host σ) : Serving σ Bool := do
  if (← get).suspension.phase == .sleeping then
    enter h .stopRewind
    transition fun s => s.wake.map ((), ·)
    pure true
  else pure false

/-- Makes the guest unwind for the sake of a file. -/
def suspend (h : Host σ) (name : String) : Serving σ Unit := do
  onSeat (Desk.Operation.access h.control.prepare)
  transition fun s => (s.begin name).map ((), ·)
  enter h (.startUnwind h.control.address)

/-- Opens the file whose name lies in memory. -/
def openNamed (h : Host σ) (mode : Mode) (length pointer : Int32) : Serving σ Int32 := do
  let resuming ← wakeIfSleeping h
  let raw ← look (·.read (Memory.address pointer) (Memory.address length))
  match ← modifyGet fun ⟨guest, memory, desk, suspension, asked⟩ =>
      let (outcome, desk) := desk.openRaw raw mode resuming
      (outcome, ⟨guest, memory, desk, suspension, asked⟩) with
  | .opened handle => pure (Int32.ofNat handle)
  | .fetch name =>
    suspend h name
    pure notReady

/-- Writes text to a file or to the console. -/
def print (handle : Int32) (data : ByteArray) : Serving σ Unit := onDesk (·.write handle data)

def truth (b : Bool) : Int32 := if b then 1 else 0

/-- Serves a call; its result, if it has one, is a word. -/
def serve (h : Host σ) : Call Int32 → Serving σ (Option Int32)
  | .reset length pointer => some <$> openNamed h .read length pointer
  | .rewrite length pointer => some <$> openNamed h .write length pointer
  | .close handle => do
    query (·.close handle)
    pure none
  | .atEnd handle => (some ∘ truth) <$> query (·.atEnd handle)
  | .atLineEnd handle => (some ∘ truth) <$> query (·.atLineEnd handle)
  | .status handle => (some ∘ Int32.ofNat) <$> query (·.status handle)
  | .get handle pointer length => do
    onSeat (Desk.get handle (Memory.address pointer) (Memory.address length))
    pure none
  | .put handle pointer length => do
    let memory := (← get).memory
    onDesk (·.put memory handle (Memory.address pointer) (Memory.address length))
    pure none
  | .inputLine handle bypass buffer first last _ capacity => do
    let more ← onSeat (Desk.inputLine handle
      { bypass := bypass != 0, buffer := Memory.address buffer, first := Memory.address first,
        last := Memory.address last, capacity := Memory.address capacity })
    pure (some (truth more))
  | .printString handle pointer => do
    let text ← look (·.readPascal (Memory.address pointer))
    print handle text
    pure none
  | .printChar handle char => do
    print handle (oneByte char.toUInt32.toUInt8)
    pure none
  | .printInteger handle value => do
    print handle (toString value.toInt).toUTF8
    pure none
  | .printReal handle bits => do
    print handle (Decimal.Real.ofBits bits).text.toUTF8
    pure none
  | .printBoolean handle value => do
    print handle (if value == 0 then "FALSE" else "TRUE").toUTF8
    pure none
  | .printNewline handle => do
    print handle (oneByte 0x0A)
    pure none
  | .minutes => pure (some h.clock.minutes)
  | .day => pure (some h.clock.day)
  | .month => pure (some h.clock.month)
  | .year => pure (some h.clock.year)
  | .finalEnd => do
    onDesk fun d => .ok d.finish
    pure none

end Galley.Session
