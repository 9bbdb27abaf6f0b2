import Galley.File.Desk
import Galley.Proofs.Paired

/-! # Comparing file operations

An operation on an open file is put together from few steps: it looks the file up,
moves its cursor, finishes the run, and reads and writes the memory.  A relation of
seats that these steps keep (`Seat.Congruent`) is kept by every read (`Congruent.get`,
`Congruent.inputLine`), and the answers are the same. -/
namespace Galley.Desk
open Operation

/-- A relation of two seats that show the same file behind a handle, with memories of one size,
and that is kept by the steps of an operation on that file.  `fits` is what else is known of
the file. -/
structure Seat.Congruent (R : Seat → Seat → Prop) (handle : Int32) (fits : OpenFile → Prop) : Prop where
  size : ∀ {x y}, R x y → x.memory.size = y.memory.size
  file : ∀ {x y}, R x y → y.desk.file handle = x.desk.file handle
  fits_file : ∀ {x y f}, R x y → x.desk.file handle = .ok f → fits f
  setCursor : ∀ {x y f}, R x y → fits f → ∀ cursor,
    Paired R (Operation.setCursor handle f cursor x) (Operation.setCursor handle f cursor y)
  finish : ∀ {x y}, R x y → Paired R (onDesk Desk.finish x) (onDesk Desk.finish y)
  write : ∀ {x y}, R x y → ∀ offset data,
    Paired R (access (Memory.write offset data) x) (access (Memory.write offset data) y)

variable {α : Type} {R : Seat → Seat → Prop} {handle : Int32} {fits : OpenFile → Prop} {x y : Seat}

theorem paired_advance (h : R x y) (cursor : Cursor) (first : UInt8) (length : Nat) :
    Paired R (advance cursor first length x) (advance cursor first length y) := by
  unfold advance
  split
  · exact .ok h
  · exact .error h

theorem paired_look (h : R x y) {read : Memory → Except Memory.Fault α} (hread : read x.memory = read y.memory) :
    Paired R (look read x) (look read y) := by
  unfold look
  rw [← hread]
  cases read x.memory with
  | ok a => exact .ok h
  | error fault => exact .error h

namespace Seat.Congruent

variable (hR : Seat.Congruent R handle fits)

include hR

/-- A read of which only the success counts. -/
theorem probe (h : R x y) (offset length : Nat) {k : Operation α} (hk : Paired R (k x) (k y)) :
    Paired R ((look (·.read offset length) >>= fun _ => k) x) ((look (·.read offset length) >>= fun _ => k) y) := by
  have hfault : x.memory.fault offset length = y.memory.fault offset length := by
    rw [Memory.fault, Memory.fault, hR.size h]
  have hcovers : x.memory.covers offset length = y.memory.covers offset length := by
    rw [Memory.covers, Memory.covers, hR.size h]
  simp only [bind, EStateM.bind, look, Memory.read, hfault, hcovers]
  by_cases hc : y.memory.covers offset length
  · simpa only [hc, if_true] using hk
  · simpa only [hc, if_false] using .error h

/-- An operation on the file behind the handle. -/
theorem withFile (h : R x y) {k : OpenFile → Operation α} (hk : ∀ f, fits f → Paired R (k f x) (k f y)) :
    Paired R ((Operation.file handle >>= k) x) ((Operation.file handle >>= k) y) := by
  simp only [bind, EStateM.bind, Operation.file, hR.file h]
  cases hf : x.desk.file handle with
  | error e => exact .error h
  | ok f => exact hk f (hR.fits_file h hf)

theorem getKeyboard {content : ByteArray} {cursor : Cursor} (h : R x y) (hf : fits (.keyboard content cursor))
    (offset length : Nat) :
    Paired R (getKeyboard handle content cursor offset length x)
      (getKeyboard handle content cursor offset length y) := by
  unfold Desk.getKeyboard
  cases byteAt? content cursor.position with
  | some byte =>
    refine .bind (hR.write h ..) fun _ {s t} h => ?_
    exact .bind (paired_advance h ..) fun _ {s t} h => hR.setCursor h hf _
  | none =>
    refine .bind (hR.setCursor h hf _) fun _ {s t} h => ?_
    refine .bind (hR.write h ..) fun _ {s t} h => ?_
    refine .bind (paired_advance h ..) fun _ {s t} h => ?_
    exact .bind (hR.setCursor h hf _) fun _ {s t} h => hR.finish h

theorem getRegular {f : RegularFile} (h : R x y) (hf : fits (.regular f)) (offset length : Nat) :
    Paired R (getRegular handle f offset length x) (getRegular handle f offset length y) := by
  unfold Desk.getRegular
  split
  · exact hR.setCursor h hf _
  · refine hR.probe h offset length ?_
    cases byteAt? (f.readAtCursor length) 0 with
    | none => exact .bind (hR.write h ..) fun _ {s t} h => hR.setCursor h hf _
    | some first =>
      refine .bind (hR.write h ..) fun _ {s t} h => ?_
      exact .bind (paired_advance h ..) fun _ {s t} h => hR.setCursor h hf _

/-- **Reading keeps the relation.** -/
theorem get (h : R x y) (offset length : Nat) :
    Paired R (get handle offset length x) (get handle offset length y) := by
  refine hR.withFile h fun f hf => ?_
  cases f with
  | keyboard content cursor => exact hR.getKeyboard h hf offset length
  | screen => exact .error h
  | regular f => exact hR.getRegular h hf offset length

theorem lineFrom {f : OpenFile} {r : LineRequest} (h : R x y) (hf : fits f)
    (hfirst : x.memory.readWord r.first = y.memory.readWord r.first) (content : ByteArray) (cursor : Cursor)
    (isTerminal : Bool) :
    Paired R (lineFrom handle f content cursor isTerminal r x) (lineFrom handle f content cursor isTerminal r y) := by
  unfold Desk.lineFrom
  generalize (if (r.bypass && !cursor.atEnd && cursor.atLineEnd) = true then 1 else 0) = skip
  refine .bind (paired_look h hfirst) fun first {s t} h => ?_
  refine .bind (hR.write h ..) fun _ {s t} h => ?_
  refine .bind (hR.setCursor h hf _) fun _ {s t} h => ?_
  split
  · refine .bind (hR.setCursor h hf _) fun _ {s t} h => ?_
    cases isTerminal with
    | true => exact .bind (hR.finish h) fun _ {s t} h => .ok h
    | false => exact .ok h
  · dsimp only
    split
    · exact .error h
    · split
      · exact .error h
      · refine .bind (hR.write h ..) fun _ {s t} h => ?_
        refine .bind (hR.write h ..) fun _ {s t} h => ?_
        exact .bind (hR.setCursor h hf _) fun _ {s t} h => .ok h

/-- **So does reading a line**, where the line starts at the same index. -/
theorem inputLine {r : LineRequest} (h : R x y) (hfirst : x.memory.readWord r.first = y.memory.readWord r.first) :
    Paired R (inputLine handle r x) (inputLine handle r y) := by
  refine hR.withFile h fun f hf => ?_
  cases f with
  | keyboard content cursor => exact hR.lineFrom h hf hfirst content cursor true
  | screen => exact .error h
  | regular f => exact hR.lineFrom h hf hfirst f.buffer f.cursor false

end Seat.Congruent
end Galley.Desk
