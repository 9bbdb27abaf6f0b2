import Galley.Bytes
import Galley.Guest

/-! Programs: engines written as a list of instructions for a machine with sixteen registers of 32 bits, a program
counter, and three words that the exports set. All arithmetic wraps. Returning from the main function leaves the
counter where it is, so a program that returns in the middle of an `await` repeats it when it is entered again;
this is how it unwinds and rewinds. -/
namespace Galley

abbrev Register := Fin 16

/-- Whether the program runs, unwinds or rewinds is a word too: 0, 1 or 2. -/
inductive Operand where
  | literal (value : UInt32)
  | register (r : Register)
  | mode
  | unwindAddress
  | rewindAddress
  deriving DecidableEq

/-- The operations on two words; the tests give 1 or 0, and `less` compares signed words. -/
inductive Arithmetic where
  | add
  | sub
  | equal
  | less
  deriving DecidableEq

def Arithmetic.apply (a b : UInt32) : Arithmetic → UInt32
  | add => a + b
  | sub => a - b
  | equal => if a == b then 1 else 0
  | less => if a.toInt32 < b.toInt32 then 1 else 0

inductive Instruction where
  | set (target : Register) (value : Operand)
  | compute (op : Arithmetic) (target : Register) (a b : Operand)
  | load (target : Register) (address : Operand)
  | loadByte (target : Register) (address : Operand)
  | store (address value : Operand)
  | storeByte (address value : Operand)
  | jump (target : UInt32)
  /-- Jump when the operand is zero, or when it is not. -/
  | branch (onZero : Bool) (value : Operand) (target : UInt32)
  /-- Call the host; a result goes to the register. -/
  | call (call : Call Operand) (target : Option Register)
  /-- Call the host, and return from the main function if the call made the program unwind. -/
  | await (call : Call Operand) (target : Register)
  | leave
  | trap
  | spin
  | recurse

/-- The instruction calls a function. -/
def Instruction.callsOn : Instruction → Bool
  | call .. | await .. | recurse => true
  | _ => false

/-- What a call under way does with its result. -/
inductive Pending where
  | call (target : Option Register)
  | await (target : Register)

structure Program where
  code : Array Instruction
  start : List Instruction
  data : List (Nat × ByteArray)
  minPages : Nat
  maxPages : Nat
  isLinked : Bool
  /-- The exports that are missing, and those that trap when they are called. -/
  omitted : List Export
  trapping : List Export
  /-- The main function returns at once while the program rewinds. -/
  refusesRewind : Bool

namespace Program

structure State where
  registers : Vector UInt32 16
  counter : UInt32
  mode : UInt32
  unwindAddress : UInt32
  rewindAddress : UInt32
  pending : Pending

namespace State

/-- All words are zero. -/
def initial : State :=
  { registers := Vector.replicate 16 0, counter := 0, mode := 0, unwindAddress := 0, rewindAddress := 0,
    pending := .call none }

def value (s : State) : Operand → UInt32
  | .literal w => w
  | .register r => s.registers[r]
  | .mode => s.mode
  | .unwindAddress => s.unwindAddress
  | .rewindAddress => s.rewindAddress

def setRegister (s : State) (r : Register) (w : UInt32) : State := { s with registers := s.registers.set r w }

/-- The state at the next instruction. -/
def next (s : State) : State := { s with counter := s.counter + 1 }

end State

/-- The values of the word that tells whether the program runs. -/
def running : UInt32 := 0
def unwinding : UInt32 := 1
def rewinding : UInt32 := 2

/-- Reads from memory into a register. -/
def loadInto (s : State) (m : Memory) (target : Register) (w : Except Memory.Fault UInt32) : Action State :=
  match w with
  | .ok w => ⟨(s.setRegister target w).next, m, .goOn⟩
  | .error _ => ⟨s, m, .trap .outOfBounds⟩

/-- Writes to memory. -/
def storeBy (s : State) (m : Memory) (write : Memory.Access Unit) : Action State :=
  match write m with
  | .ok () m => ⟨s.next, m, .goOn⟩
  | .error _ m => ⟨s, m, .trap .outOfBounds⟩

/-- Executes an instruction. -/
def execute (i : Instruction) (s : State) (m : Memory) : Action State :=
  match i with
  | .set target value => ⟨(s.setRegister target (s.value value)).next, m, .goOn⟩
  | .compute op target a b => ⟨(s.setRegister target (op.apply (s.value a) (s.value b))).next, m, .goOn⟩
  | .load target address => loadInto s m target (m.readWord (s.value address).toNat)
  | .loadByte target address =>
    loadInto s m target ((m.readByte (s.value address).toNat).map fun b => b.toUInt32)
  | .store address value => storeBy s m (Memory.writeWord (s.value address).toNat (s.value value))
  | .storeByte address value =>
    storeBy s m (Memory.writeByte (s.value address).toNat (s.value value).toUInt8)
  | .jump target => ⟨{ s with counter := target }, m, .goOn⟩
  | .branch onZero value target =>
    ⟨if (s.value value == 0) == onZero then { s with counter := target } else s.next, m, .goOn⟩
  | .call call target =>
    ⟨{ s with pending := .call target }, m, .call (call.map fun a => (s.value a).toInt32)⟩
  | .await call target =>
    ⟨{ s with pending := .await target }, m, .call (call.map fun a => (s.value a).toInt32)⟩
  | .leave => ⟨s, m, .leave⟩
  | .trap => ⟨s, m, .trap .unreachable⟩
  | .spin => ⟨s, m, .spin⟩
  | .recurse => ⟨s, m, .trap .stackExhausted⟩

/-- A step of the main function: it returns when the counter is outside the code. -/
def step (p : Program) (s : State) (m : Memory) : Action State :=
  if p.refusesRewind && s.mode == rewinding then ⟨s, m, .leave⟩
  else
    match p.code[s.counter.toNat]? with
    | some i => execute i s m
    | none => ⟨s, m, .leave⟩

/-- Takes the return of a call. -/
def resume (s : State) (result : Option Int32) : Return State :=
  let word := (result.getD 0).toUInt32
  match s.pending with
  | .call target =>
    match target, result with
    | some r, some _ => .goOn (s.setRegister r word).next
    | _, _ => .goOn s.next
  | .await target => if s.mode == unwinding then .leave s else .goOn (s.setRegister target word).next

/-- What an export does to the three words. -/
def transfer (s : State) : Entry → State
  | .main => s
  | .startUnwind address => { s with mode := unwinding, unwindAddress := address.toUInt32 }
  | .stopUnwind => { s with mode := running }
  | .startRewind address => { s with mode := rewinding, rewindAddress := address.toUInt32 }
  | .stopRewind => { s with mode := running }

/-- An export that traps calls nothing, and the main function calls what its code calls. -/
def callsOn (p : Program) (e : Export) : Bool :=
  e == .main && !p.trapping.contains e && p.code.any (·.callsOn)

def guest (p : Program) : Guest State :=
  { enter := fun e s => if p.trapping.contains e.toExport then .error .unreachable else .ok (transfer s e)
    step := p.step
    callsOn := p.callsOn
    resume := resume }

/-- The engine that a program is. -/
def engine (p : Program) : Engine State :=
  { guest := p.guest, minPages := p.minPages, maxPages := p.maxPages, isLinked := p.isLinked, data := p.data,
    initial := .initial, start := p.start.map execute, startCallsOn := p.start.any (·.callsOn)
    ready := fun s => { s with counter := 0 }
    exports := fun e => !p.omitted.contains e }

end Program
end Galley
