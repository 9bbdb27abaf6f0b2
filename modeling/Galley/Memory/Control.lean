import Galley.Config
import Galley.Memory

/-! The control block of a suspension: two words at the bottom of the continuation pages that tell the guest
where its saved stack begins and where it must end. -/
namespace Galley

/-- Where the continuation pages begin and end. -/
structure ControlBlock where
  start : Nat
  stop : Nat

namespace ControlBlock

/-- The continuation pages at the top of the memory. -/
def ofConfig (c : Config) : ControlBlock :=
  { start := (c.memoryPages - c.continuationPages) * Config.pageSize, stop := c.memoryBytes }

/-- The address handed to the guest, a signed word. -/
def address (b : ControlBlock) : Int32 := (UInt32.ofNat b.start).toInt32

/-- Writes the two words: the stack begins right behind them and ends with the pages. -/
def prepare (b : ControlBlock) : Memory.Access Unit := do
  Memory.writeWord b.start (UInt32.ofNat (b.start + 8))
  Memory.writeWord (b.start + 4) (UInt32.ofNat b.stop)

/-- What lies right behind the two words has an address, as the first of them has to tell. -/
def isPlaced (b : ControlBlock) : Bool := b.start + 8 < wordBound

/-- Writes the two words if they can be told at all. -/
def prepare? (b : ControlBlock) : Option (Memory.Access Unit) := if b.isPlaced then some b.prepare else none

end ControlBlock
end Galley
