import Galley.Proofs.File.Acts
import Galley.Proofs.Paired

/-! # What acts tell the guest

The reply to an act is its answer or its error, and the memory as it then is: what
a read has delivered is there, also if the read fails after that.  A `Desk.trace`
lists acts with their replies, up to one that the host cannot go on from. -/
namespace Galley
namespace Act

/-- The answer to an act that succeeds. -/
inductive Answer where
  | done
  | flag (value : Bool)
  | status (code : Nat)
  | outcome (outcome : OpenOutcome)
  deriving DecidableEq

/-- The reply to an act. -/
structure Reply where
  result : Except FileFailure Answer
  memory : Memory

/-- The handle that a reply gives. -/
def Reply.opened? (r : Reply) : Option Nat :=
  match r.result with
  | .ok (.outcome (.opened handle)) => some handle
  | _ => none

/-- The memory over which an act works; others work over none. -/
def memory : Act → Memory
  | get m .. => m
  | put m .. => m
  | inputLine m .. => m
  | _ => ⟨.empty⟩

/-- Asks the files for something, which is the answer. -/
def telling {α : Type} (answer : α → Answer) (ask : Desk → Except FileError α) : Desk.Operation Answer := fun x =>
  match ask x.desk with
  | .ok a => .ok (answer a) x
  | .error e => .error (.error e) x

/-- Changes the files and has nothing to tell. -/
def altering (change : Desk → Except FileFailure Desk) : Desk.Operation Answer := fun x =>
  match change x.desk with
  | .ok desk => .ok .done { x with desk }
  | .error e => .error e x

/-- Changes the files and tells the outcome of an open. -/
def opening (change : Desk → OpenOutcome × Desk) : Desk.Operation Answer := fun x =>
  .ok (.outcome (change x.desk).1) { x with desk := (change x.desk).2 }

/-- Does an act, and answers it. -/
def operate : Act → Desk.Operation Answer
  | insert name content => altering fun d => .ok (d.insert name content)
  | openFile name mode resuming => opening (·.open name mode resuming)
  | openRaw raw mode resuming => opening (·.openRaw raw mode resuming)
  | close handle => telling (fun _ => .done) (·.close handle)
  | atEnd handle => telling .flag (·.atEnd handle)
  | atLineEnd handle => telling .flag (·.atLineEnd handle)
  | status handle => telling .status (·.status handle)
  | get _ handle pointer length => (fun _ => .done) <$> Desk.get handle pointer.toNat length.toNat
  | put _ handle pointer length => fun x => altering (·.put x.memory handle pointer.toNat length.toNat) x
  | write handle data => altering (·.write handle data)
  | inputLine _ handle bypass buffer first last capacity =>
    .flag <$> Desk.inputLine handle
      { bypass, buffer := buffer.toNat, first := first.toNat, last := last.toNat, capacity := capacity.toNat }
  | finish => altering fun d => .ok d.finish

/-- The reply to an act at a desk. -/
def reply (a : Act) (d : Desk) : Reply :=
  match a.operate ⟨d, a.memory⟩ with
  | .ok answer x => ⟨.ok answer, x.memory⟩
  | .error e x => ⟨.error e, x.memory⟩

/-- The handle that an act works on; opens, the host's own acts and the end work on none. -/
def handle? : Act → Option Int32
  | close handle => some handle
  | atEnd handle => some handle
  | atLineEnd handle => some handle
  | status handle => some handle
  | get _ handle _ _ => some handle
  | put _ handle _ _ => some handle
  | write handle _ => some handle
  | inputLine _ handle _ _ _ _ _ => some handle
  | _ => none

/-- The act works on this handle. -/
def isOn (handle : Int32) (a : Act) : Bool := a.handle? == some handle

end Act

namespace Desk

/-- Acts with their replies, as long as the host can go on. -/
def trace (d : Desk) : List Act → List (Act × Act.Reply)
  | [] => []
  | a :: acts =>
    (a, a.reply d) ::
      match d.after a with
      | some d' => d'.trace acts
      | none => []

variable {d d' : Desk} {a : Act} {acts : List Act}

theorem trace_of_after (h : d.after a = some d') : d.trace (a :: acts) = (a, a.reply d) :: d'.trace acts := by
  rw [trace, h]

theorem trace_of_abort (h : d.after a = none) : d.trace (a :: acts) = [(a, a.reply d)] := by
  rw [trace, h]

theorem run_of_after (h : d.after a = some d') : d.run (a :: acts) = d'.run acts := by
  rw [run_cons, h]
  rfl

/-- The desk that a result leaves, unless the host cannot go on. -/
def going {α : Type} : EStateM.Result FileFailure Seat α → Option Desk
  | .ok _ x => some x.desk
  | .error (.error _) x => some x.desk
  | .error .abort _ => none

theorem going_map {α β : Type} (op : Operation α) (f : α → β) (x : Seat) : going ((f <$> op) x) = going (op x) := by
  change going (EStateM.map f op x) = going (op x)
  rw [EStateM.map]
  cases op x with
  | ok r x => rfl
  | error e x => cases e <;> rfl

/-- **An act that is answered leaves the desk that it leaves without an answer.** -/
theorem after_eq (d : Desk) (a : Act) : d.after a = going (a.operate ⟨d, a.memory⟩) := by
  have hask {α : Type} (answer : α → Act.Answer) (ask : Desk → Except FileError α) (m : Memory)
      (h : a.perform = Act.asking ask) : d.after a = going (Act.telling answer ask ⟨d, m⟩) := by
    rw [after, h, Act.asking, Act.telling]
    cases ask d <;> rfl
  have hchange (change : Desk → Except FileFailure Desk) (m : Memory) (h : a.perform d = Act.changing change d) :
      d.after a = going (Act.altering change ⟨d, m⟩) := by
    rw [after, h, Act.changing, Act.altering]
    dsimp only
    cases change d with
    | ok d' => rfl
    | error e => cases e <;> rfl
  have hseat {α : Type} (op : Operation α) (m : Memory) (h : a.perform = Act.seated m op) :
      d.after a = going (op ⟨d, m⟩) := by
    rw [after, h, Act.seated]
    cases op ⟨d, m⟩ with
    | ok r x => rfl
    | error e x => cases e <;> rfl
  cases a with
  | insert name content => rfl
  | openFile name mode resuming => rfl
  | openRaw raw mode resuming => rfl
  | close handle => exact hask _ _ _ rfl
  | atEnd handle => exact hask _ _ _ rfl
  | atLineEnd handle => exact hask _ _ _ rfl
  | status handle => exact hask _ _ _ rfl
  | get m handle pointer length => exact (hseat _ m rfl).trans (going_map ..).symm
  | put m handle pointer length => exact hchange (·.put m handle pointer.toNat length.toNat) m rfl
  | write handle data => exact hchange (·.write handle data) _ rfl
  | inputLine m handle bypass buffer first last capacity => exact (hseat _ m rfl).trans (going_map ..).symm
  | finish => rfl

end Desk
end Galley
