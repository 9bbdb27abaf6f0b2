import Galley.Guest.Program
import Galley.Proofs.Guest.Resumable
import Galley.Proofs.Typesetter.Dependence

/-! # Programs as engines

A program does not ask for the time if none of its instructions does
(`Program.engine_clockless`).  A program is `Blind` if it computes from its registers and from
fixed places of the memory outside the control words, never from the words that only its
exports set, and if it awaits every open for reading.  The engine that such a program is can
be suspended (`Blind.resumable`), and it is discreet if what its calls hand over lies at fixed
places outside the control words (`discreet`). -/
namespace Galley

variable {b : ControlBlock}

/-! ## Calls -/

namespace Program

variable {s : State} {m : Memory}

/-- Only two instructions call the host. -/
theorem execute_call_cases {i : Instruction} {call : Call Int32} (hmove : (execute i s m).move = .call call) :
    ∃ c target, (i = .call c target ∨ i = .await c (target.getD 0)) ∧
      (c.map fun a => (s.value a).toInt32) = call := by
  cases i with
  | call c target => exact ⟨c, target, Or.inl rfl, Move.call.inj hmove⟩
  | await c target => exact ⟨c, some target, Or.inr rfl, Move.call.inj hmove⟩
  | load target address =>
    simp only [execute, loadInto] at hmove
    split at hmove <;> cases hmove
  | loadByte target address =>
    simp only [execute, loadInto] at hmove
    split at hmove <;> cases hmove
  | store address value =>
    simp only [execute, storeBy] at hmove
    split at hmove <;> cases hmove
  | storeByte address value =>
    simp only [execute, storeBy] at hmove
    split at hmove <;> cases hmove
  | _ => cases hmove

/-- A step that ends in a call leaves the memory as it is. -/
theorem memory_of_call {p : Program} {call : Call Int32} (hmove : (p.step s m).move = .call call) :
    (p.step s m).memory = m := by
  unfold step at hmove ⊢
  split
  · rfl
  next hruns =>
    rw [if_neg hruns] at hmove
    split
    next i hi =>
      rw [hi] at hmove
      obtain ⟨c, target, rfl | rfl, -⟩ := execute_call_cases hmove <;> rfl
    next => rfl

end Program

/-! ## The time -/

theorem Call.usesClock_map {α β : Type} (f : α → β) (call : Call α) :
    (call.map f).usesClock = call.usesClock := by
  cases call <;> rfl

/-- The instruction asks for the time or the date. -/
def Instruction.usesClock : Instruction → Bool
  | .call c _ => c.usesClock
  | .await c _ => c.usesClock
  | _ => false

namespace Program

theorem usesClock_of_execute {i : Instruction} {s : State} {m : Memory} {call : Call Int32}
    (h : (execute i s m).move = .call call) : call.usesClock = i.usesClock := by
  obtain ⟨c, target, rfl | rfl, rfl⟩ := execute_call_cases h
  · exact c.usesClock_map _
  · exact c.usesClock_map _

/-- A program without an instruction that asks for the time. -/
theorem engine_clockless {p : Program} (hcode : ∀ i ∈ p.code, i.usesClock = false)
    (hstart : ∀ i ∈ p.start, i.usesClock = false) : p.engine.Clockless where
  main := by
    intro s m call h
    simp only [engine, guest, step] at h
    split at h
    · cases h
    · split at h
      next i hi =>
        rw [usesClock_of_execute h]
        exact hcode i (Array.mem_of_getElem? hi)
      next => cases h
  start := by
    intro step hstep s m call h
    obtain ⟨i, hi, rfl⟩ := List.mem_map.mp hstep
    rw [usesClock_of_execute h]
    exact hstart i hi

end Program

/-! ## Suspension -/

/-- The operand is not one of the words that the exports set. -/
def Operand.isOwn : Operand → Bool
  | .literal _ | .register _ => true
  | _ => false

/-- The operand is a fixed address, with so many bytes outside the control words behind it. -/
def Operand.avoids (b : ControlBlock) (length : Nat) : Operand → Bool
  | .literal w => w.toNat + length ≤ b.start || b.start + 8 ≤ w.toNat
  | _ => false

namespace Call

/-- The arguments of a call that are words. -/
def words {α : Type} : Call α → List α
  | reset length pointer => [length, pointer]
  | rewrite length pointer => [length, pointer]
  | close handle => [handle]
  | atEnd handle => [handle]
  | atLineEnd handle => [handle]
  | status handle => [handle]
  | get handle pointer length => [handle, pointer, length]
  | put handle pointer length => [handle, pointer, length]
  | inputLine handle bypass buffer first last reserve capacity =>
    [handle, bypass, buffer, first, last, reserve, capacity]
  | printString handle pointer => [handle, pointer]
  | printChar handle char => [handle, char]
  | printInteger handle value => [handle, value]
  | printReal handle _ => [handle]
  | printBoolean handle value => [handle, value]
  | printNewline handle => [handle]
  | minutes | day | month | year | finalEnd => []

theorem map_congr {α β : Type} {f g : α → β} {call : Call α} (h : ∀ a ∈ call.words, f a = g a) :
    call.map f = call.map g := by
  cases call <;> simp_all [words, map]

/-- The call opens a file for reading. -/
def isReset {α : Type} : Call α → Bool
  | reset .. => true
  | _ => false

theorem isReset_map {α β : Type} (f : α → β) (call : Call α) : (call.map f).isReset = call.isReset := by
  cases call <;> rfl

end Call

/-- What the instruction does depends on nothing that a suspension changes. -/
def Instruction.isBlind (b : ControlBlock) : Instruction → Bool
  | .set _ value => value.isOwn
  | .compute _ _ x y => x.isOwn && y.isOwn
  | .load _ address => address.avoids b 4
  | .loadByte _ address => address.avoids b 1
  | .store address value => address.isOwn && value.isOwn
  | .storeByte address value => address.isOwn && value.isOwn
  | .branch _ value _ => value.isOwn
  | .call c _ => !c.isReset && c.words.all Operand.isOwn
  | .await c _ => c.words.all Operand.isOwn
  | _ => true

namespace Program

/-- Neither state is in the middle of a suspension, and they agree on all but the words that
only tell of past ones. -/
structure Same (s s' : State) : Prop where
  registers : s.registers = s'.registers
  counter : s.counter = s'.counter
  pending : s.pending = s'.pending
  first : s.mode = running
  second : s'.mode = running

variable {s s' : State} {m m' : Memory}

namespace Same

theorem symm (h : Same s s') : Same s' s :=
  ⟨h.registers.symm, h.counter.symm, h.pending.symm, h.second, h.first⟩

theorem trans {s'' : State} (h : Same s s') (h' : Same s' s'') : Same s s'' :=
  ⟨h.registers.trans h'.registers, h.counter.trans h'.counter, h.pending.trans h'.pending, h.first, h'.second⟩

theorem value (h : Same s s') {a : Operand} (ha : a.isOwn = true) : s.value a = s'.value a := by
  cases a with
  | literal w => rfl
  | register r => simp only [State.value, h.registers]
  | _ => cases ha

theorem next (h : Same s s') : Same s.next s'.next :=
  ⟨h.registers, congrArg (· + 1) h.counter, h.pending, h.first, h.second⟩

theorem setRegister (h : Same s s') (r : Register) (w : UInt32) : Same (s.setRegister r w) (s'.setRegister r w) :=
  ⟨by simp only [State.setRegister, h.registers], h.counter, h.pending, h.first, h.second⟩

theorem jump (h : Same s s') (target : UInt32) : Same { s with counter := target } { s' with counter := target } :=
  ⟨h.registers, rfl, h.pending, h.first, h.second⟩

theorem await (h : Same s s') (pending : Pending) : Same { s with pending } { s' with pending } :=
  ⟨h.registers, h.counter, rfl, h.first, h.second⟩

theorem call (h : Same s s') {call : Call Operand} (hcall : call.words.all Operand.isOwn = true) :
    (call.map fun a => (s.value a).toInt32) = call.map fun a => (s'.value a).toInt32 :=
  Call.map_congr fun a ha => by rw [h.value (List.all_eq_true.mp hcall a ha)]

end Same

theorem storeBy_alike (h : Same s s') {write : Memory.Access Unit} (hwrite : Paired b.Alike (write m) (write m')) :
    (storeBy s m write).Alike b Same (storeBy s' m' write) := by
  simp only [storeBy]
  generalize write m = r at hwrite ⊢
  generalize write m' = r' at hwrite ⊢
  cases hwrite with
  | ok halike => exact ⟨h.next, halike, rfl⟩
  | error halike => exact ⟨h, halike, rfl⟩

theorem loadInto_alike (h : Same s s') (hm : b.Alike m m') (target : Register) {w w' : Except Memory.Fault UInt32}
    (hw : w = w') : (loadInto s m target w).Alike b Same (loadInto s' m' target w') := by
  subst hw
  cases w with
  | ok w => exact ⟨(h.setRegister target w).next, hm, rfl⟩
  | error fault => exact ⟨h, hm, rfl⟩

/-- The range behind a fixed address holds the same in both memories. -/
theorem read_of_avoids (hm : b.Alike m m') {address : Operand} {length : Nat}
    (haddress : address.avoids b length = true) :
    m.read (s.value address).toNat length = m'.read (s'.value address).toNat length := by
  cases address with
  | literal w =>
    simp only [Operand.avoids, Bool.or_eq_true, decide_eq_true_eq] at haddress
    exact hm.read haddress
  | _ => cases haddress

/-- A blind instruction does the same in states that are the same. -/
theorem execute_alike {i : Instruction} (hi : i.isBlind b = true) (h : Same s s') (hm : b.Alike m m') :
    (execute i s m).Alike b Same (execute i s' m') := by
  cases i with
  | set target value =>
    rw [execute, execute, h.value hi]
    exact ⟨(h.setRegister ..).next, hm, rfl⟩
  | compute op target x y =>
    obtain ⟨hx, hy⟩ := Bool.and_eq_true_iff.mp hi
    rw [execute, execute, h.value hx, h.value hy]
    exact ⟨(h.setRegister ..).next, hm, rfl⟩
  | load target address =>
    exact loadInto_alike h hm target (congrArg (Except.map Memory.wordOf) (read_of_avoids hm hi))
  | loadByte target address =>
    refine loadInto_alike h hm target ?_
    rw [Memory.readByte, Memory.readByte, read_of_avoids hm hi]
  | store address value =>
    obtain ⟨haddress, hvalue⟩ := Bool.and_eq_true_iff.mp hi
    rw [execute, execute, h.value haddress, h.value hvalue]
    exact storeBy_alike h (hm.write ..)
  | storeByte address value =>
    obtain ⟨haddress, hvalue⟩ := Bool.and_eq_true_iff.mp hi
    rw [execute, execute, h.value haddress, h.value hvalue]
    exact storeBy_alike h (hm.write ..)
  | jump target => exact ⟨h.jump target, hm, rfl⟩
  | branch onZero value target =>
    rw [execute, execute, h.value hi]
    refine ⟨?_, hm, rfl⟩
    dsimp only
    split
    · exact h.jump target
    · exact h.next
  | call call target =>
    rw [execute, execute, h.call (Bool.and_eq_true_iff.mp hi).2]
    exact ⟨h.await _, hm, rfl⟩
  | await call target =>
    rw [execute, execute, h.call hi]
    exact ⟨h.await _, hm, rfl⟩
  | leave => exact ⟨h, hm, rfl⟩
  | trap => exact ⟨h, hm, rfl⟩
  | spin => exact ⟨h, hm, rfl⟩
  | recurse => exact ⟨h, hm, rfl⟩

theorem size_execute (i : Instruction) (s : State) (m : Memory) : (execute i s m).memory.size = m.size := by
  have hload (target : Register) (w : Except Memory.Fault UInt32) : (loadInto s m target w).memory = m := by
    cases w <;> rfl
  have hstore (offset : Nat) (data : ByteArray) : (storeBy s m (Memory.write offset data)).memory.size = m.size := by
    simp only [storeBy]
    split
    next hwrite => exact Memory.size_of_write hwrite
    next hwrite => rw [Memory.eq_of_write_error hwrite]
  cases i with
  | load target address => exact congrArg Memory.size (hload ..)
  | loadByte target address => exact congrArg Memory.size (hload ..)
  | store address value => exact hstore ..
  | storeByte address value => exact hstore ..
  | _ => rfl

/-- The program computes from nothing that a suspension changes, awaits every open for reading,
and comes back when it is rewound. -/
structure Blind (b : ControlBlock) (p : Program) : Prop where
  code : ∀ i ∈ p.code, i.isBlind b = true
  start : ∀ i ∈ p.start, i.isBlind b = true
  trapping : p.trapping = []
  comesBack : p.refusesRewind = false

namespace Blind

variable {p : Program}

theorem step_eq (hp : p.Blind b) (s : State) (m : Memory) :
    p.step s m = match p.code[s.counter.toNat]? with
      | some i => execute i s m
      | none => ⟨s, m, .leave⟩ := by
  rw [step, hp.comesBack]
  rfl

theorem enter_eq (hp : p.Blind b) (e : Entry) (s : State) : p.guest.enter e s = .ok (transfer s e) := by
  simp only [guest, hp.trapping, List.contains_nil]
  rfl

theorem step_alike (hp : p.Blind b) (h : Same s s') (hm : b.Alike m m') : (p.step s m).Alike b Same (p.step s' m') := by
  rw [hp.step_eq, hp.step_eq, h.counter]
  split
  next i hi => exact execute_alike (hp.code i (Array.mem_of_getElem? hi)) h hm
  next => exact ⟨h, hm, rfl⟩

theorem size_step (hp : p.Blind b) (s : State) (m : Memory) : (p.step s m).memory.size = m.size := by
  rw [hp.step_eq]
  split
  · exact size_execute ..
  · rfl

/-- Only an `await` opens for reading. -/
theorem awaits_of_reset {i : Instruction} (hi : i.isBlind b = true) {length pointer : Int32}
    (hmove : (execute i s m).move = .call (.reset length pointer)) :
    ∃ c target, i = .await c target ∧ c.words.all Operand.isOwn = true ∧
      (c.map fun a => (s.value a).toInt32) = .reset length pointer := by
  obtain ⟨c, target, rfl | rfl, hcall⟩ := execute_call_cases hmove
  · have hreset := congrArg Call.isReset hcall
    rw [Call.isReset_map] at hreset
    have hnot := (Bool.and_eq_true_iff.mp hi).1
    rw [hreset] at hnot
    cases hnot
  · exact ⟨c, _, rfl, hi, hcall⟩

theorem comesBack_of_reset (hp : p.Blind b) (h : Same s s) {length pointer : Int32}
    (hmove : (p.step s m).move = .call (.reset length pointer)) :
    p.guest.ComesBack b Same (.reset length pointer) (p.step s m).state (p.step s m).memory := by
  rw [hp.step_eq] at hmove ⊢
  split at hmove
  next i hi =>
    obtain ⟨c, target, rfl, hwords, hcall⟩ := awaits_of_reset (hp.code i (Array.mem_of_getElem? hi)) hmove
    -- the exports change the mode only, so the program comes back to the same `await`
    let awaiting : State := { s with pending := .await target }
    let rewound : State :=
      transfer (transfer (transfer awaiting (.startUnwind b.address)) .stopUnwind) (.startRewind b.address)
    refine ⟨_, transfer awaiting (.startUnwind b.address), _, _, rewound, hp.enter_eq .., rfl, hp.enter_eq ..,
      hp.enter_eq .., hp.enter_eq .., fun m' hm' => ?_⟩
    have hagain : p.step rewound m' = execute (.await c target) rewound m' := by
      rw [hp.step_eq]
      change (match p.code[s.counter.toNat]? with | some i => execute i rewound m' | none => _) = _
      rw [hi]
    have hsame : (c.map fun a => (rewound.value a).toInt32) = .reset length pointer := by
      rw [← hcall]
      refine Call.map_congr fun a ha => ?_
      have hown := List.all_eq_true.mp hwords a ha
      cases a with
      | literal w => rfl
      | register r => rfl
      | _ => cases hown
    change (p.step rewound m').move = _ ∧ b.Alike _ (p.step rewound m').memory ∧
      ∃ back, p.guest.enter .stopRewind (p.step rewound m').state = .ok back ∧ Same awaiting back
    rw [hagain]
    refine ⟨congrArg Move.call hsame, hm', _, hp.enter_eq .., ⟨rfl, rfl, rfl, h.first, rfl⟩⟩
  next => cases hmove

theorem resume_alike (h : Same s s') (result : Option Int32) :
    (resume s result).Alike Same (resume s' result) := by
  have hmode : (s.mode == unwinding) = false := by
    rw [h.first]
    rfl
  have hmode' : (s'.mode == unwinding) = false := by
    rw [h.second]
    rfl
  simp only [resume, ← h.pending, hmode, hmode']
  split
  · split
    · exact .goOn (h.setRegister ..).next
    · exact .goOn h.next
  · exact .goOn (h.setRegister ..).next

theorem callsOn_of_call (hp : p.Blind b) {call : Call Int32} (hmove : (p.step s m).move = .call call) :
    p.callsOn .main = true := by
  rw [hp.step_eq] at hmove
  split at hmove
  next i hi =>
    have hcallsOn : i.callsOn = true := by
      obtain ⟨c, target, rfl | rfl, -⟩ := execute_call_cases hmove <;> rfl
    rw [callsOn, hp.trapping]
    exact Array.any_eq_true'.mpr ⟨i, Array.mem_of_getElem? hi, hcallsOn⟩
  next => cases hmove

/-- **The engine that a blind program is can be suspended.** -/
theorem resumable (hp : p.Blind b) : p.engine.Resumable b Same where
  guest :=
    { symm := Same.symm
      trans := Same.trans
      step := hp.step_alike
      resume := fun h result => resume_alike h result
      main := fun {s s'} h => by
        change Entered Same (p.guest.enter .main s) (p.guest.enter .main s')
        rw [hp.enter_eq, hp.enter_eq]
        exact .ok h
      comesBack := fun h hmove => hp.comesBack_of_reset h hmove
      size := hp.size_step
      callsOn := hp.callsOn_of_call }
  initial := ⟨rfl, rfl, rfl, rfl, rfl⟩
  start := by
    intro step hstep s s' m m' h hm
    obtain ⟨i, hi, rfl⟩ := List.mem_map.mp hstep
    exact execute_alike (hp.start i hi) h hm
  startSize := by
    intro step hstep s m
    obtain ⟨i, hi, rfl⟩ := List.mem_map.mp hstep
    exact size_execute i s m
  ready h := ⟨h.registers, rfl, h.pending, h.first, h.second⟩

end Blind
end Program

/-! ## Discretion -/

/-- The range has a fixed place outside the control words. -/
def Operand.avoidsFor (b : ControlBlock) (pointer length : Operand) : Bool :=
  match length with
  | .literal w => pointer.avoids b w.toNat
  | _ => false

/-- What the call hands over lies at a fixed place outside the control words. -/
def Call.isDiscreet (b : ControlBlock) : Call Operand → Bool
  | .reset length pointer => pointer.avoidsFor b length
  | .rewrite length pointer => pointer.avoidsFor b length
  | .put _ pointer length => pointer.avoidsFor b length
  | .inputLine _ _ _ first _ _ _ => first.avoids b 4
  | .printString _ pointer => pointer.avoids b 256
  | _ => true

/-- The instruction hands over nothing of the control words. -/
def Instruction.isDiscreet (b : ControlBlock) : Instruction → Bool
  | .call c _ => c.isDiscreet b
  | .await c _ => c.isDiscreet b
  | _ => true

namespace Program

variable {m m' : Memory}

/-- What a range at a fixed place holds. -/
theorem read_of_avoidsFor (hm : b.Alike m m') (s : State) {length pointer : Operand}
    (h : pointer.avoidsFor b length = true) :
    m.read (Memory.address (s.value pointer).toInt32) (Memory.address (s.value length).toInt32) =
      m'.read (Memory.address (s.value pointer).toInt32) (Memory.address (s.value length).toInt32) := by
  cases length with
  | literal w => exact read_of_avoids hm h
  | _ => cases h

theorem handed_of_isDiscreet (hm : b.Alike m m') (s : State) {call : Call Operand} (hcall : call.isDiscreet b = true) :
    (call.map fun a => (s.value a).toInt32).handed m = (call.map fun a => (s.value a).toInt32).handed m' := by
  cases call with
  | reset length pointer => exact read_of_avoidsFor hm s hcall
  | rewrite length pointer => exact read_of_avoidsFor hm s hcall
  | put handle pointer length => exact read_of_avoidsFor hm s hcall
  | inputLine handle bypass buffer first last reserve capacity => exact read_of_avoids hm hcall
  | printString handle pointer =>
    cases pointer with
    | literal w =>
      simp only [Call.isDiscreet, Operand.avoids, Bool.or_eq_true, decide_eq_true_eq] at hcall
      exact hm.readPascal hcall
    | _ => cases hcall
  | _ => rfl

/-- A program that hands over fixed places outside the control words only. -/
theorem discreet {p : Program} (hcode : ∀ i ∈ p.code, i.isDiscreet b = true) (same : State → State → Prop) :
    p.engine.guest.Discreet b same := by
  intro s m call _ hmove m' hm
  change (p.step s m).move = _ at hmove
  change b.Alike (p.step s m).memory m' at hm
  simp only [step] at hmove
  split at hmove
  · cases hmove
  · split at hmove
    next i hi =>
      obtain ⟨c, target, rfl | rfl, rfl⟩ := execute_call_cases hmove
      · exact handed_of_isDiscreet hm s (hcode _ (Array.mem_of_getElem? hi))
      · exact handed_of_isDiscreet hm s (hcode _ (Array.mem_of_getElem? hi))
    next => cases hmove

end Program
end Galley
