import Galley.Proofs.File.Opening
import Galley.Session.Serve

/-! # Serving the calls that are not opens

Two sessions are `Abreast` if since some point only their desks and memories have changed,
and these are alike but for the contents of the second.  A call that opens no file keeps
them abreast and returns the same to both (`paired_serve`), provided that what it hands
over from memory is the same. -/
namespace Galley

/-- The call opens a file. -/
def Call.isOpen {α : Type} : Call α → Bool
  | .reset .. | .rewrite .. => true
  | _ => false

/-- What a call hands over from memory: the name of a file, the bytes to be written, or the
place in the line buffer. -/
def Call.handed (m : Memory) : Call Int32 → Except Memory.Fault ByteArray
  | .reset length pointer => m.read (Memory.address pointer) (Memory.address length)
  | .rewrite length pointer => m.read (Memory.address pointer) (Memory.address length)
  | .put _ pointer length => m.read (Memory.address pointer) (Memory.address length)
  | .inputLine _ _ _ first _ _ _ => m.read (Memory.address first) 4
  | .printString _ pointer => m.readPascal (Memory.address pointer)
  | _ => .ok .empty

variable {σ α : Type} {b : ControlBlock} {x₀ y₀ x y : Session σ}

/-- What a session has of a seat. -/
def Session.seat (s : Session σ) : Desk.Seat := ⟨s.desk, s.memory⟩

/-- Since `x₀` and `y₀` only the desks and the memories have changed, and these are alike. -/
structure Session.Abreast (b : ControlBlock) (x₀ y₀ x y : Session σ) : Prop where
  seat : Desk.Seat.Alike b x₀.seat y₀.desk.contents x.seat y.seat
  first : x = { x₀ with desk := x.desk, memory := x.memory }
  second : y = { y₀ with desk := y.desk, memory := y.memory }

namespace Serving
open Session

theorem paired_onSeat (h : Abreast b x₀ y₀ x y) {op : Desk.Operation α}
    (hop : Paired (Desk.Seat.Alike b x₀.seat y₀.desk.contents) (op x.seat) (op y.seat)) :
    Paired (Abreast b x₀ y₀) (onSeat op x) (onSeat op y) := by
  have hx := h.first
  have hy := h.second
  obtain ⟨gx, mx, dx, sx, ax⟩ := x
  obtain ⟨gy, my, dy, sy, ay⟩ := y
  injection hx with hgx _ _ hsx hax
  injection hy with hgy _ _ hsy hay
  subst hgx hsx hax hgy hsy hay
  simp only [onSeat]
  change Paired _ (op ⟨dx, mx⟩) (op ⟨dy, my⟩) at hop
  generalize op ⟨dx, mx⟩ = r at hop ⊢
  generalize op ⟨dy, my⟩ = r' at hop ⊢
  cases hop with
  | ok hseat => exact .ok ⟨hseat, rfl, rfl⟩
  | error hseat => exact .error ⟨hseat, rfl, rfl⟩

theorem paired_query (h : Abreast b x₀ y₀ x y) {ask : Desk → Except FileError α}
    (hask : ask (x.desk.withContents y₀.desk.contents) = ask x.desk) :
    Paired (Abreast b x₀ y₀) (query ask x) (query ask y) := by
  have hdesk : y.desk = x.desk.withContents y₀.desk.contents := h.seat.desk
  simp only [query, hdesk, hask]
  cases ask x.desk with
  | ok a => exact .ok h
  | error e => exact .error h

theorem paired_read (h : Abreast b x₀ y₀ x y) {read : Memory → Except Memory.Fault α}
    (hread : read x.memory = read y.memory) :
    Paired (Abreast b x₀ y₀) (look read x) (look read y) := by
  simp only [look, hread]
  cases read y.memory with
  | ok a => exact .ok h
  | error fault => exact .error h

theorem paired_change (h : Abreast b x₀ y₀ x y) {change change' : Desk → Except FileFailure Desk}
    (hkept : ∀ d, change x.desk = .ok d → x.desk.Keeps d)
    (hchange : change' (x.desk.withContents y₀.desk.contents) =
      (change x.desk).map (·.withContents y₀.desk.contents)) :
    Paired (Abreast b x₀ y₀) (onDesk change x) (onDesk change' y) := by
  have hx := h.first
  have hy := h.second
  obtain ⟨gx, mx, dx, sx, ax⟩ := x
  obtain ⟨gy, my, dy, sy, ay⟩ := y
  injection hx with hgx _ _ hsx hax
  injection hy with hgy _ _ hsy hay
  subst hgx hsx hax hgy hsy hay
  have hdesk : dy = dx.withContents y₀.desk.contents := h.seat.desk
  subst hdesk
  simp only [onDesk, hchange]
  cases hd : change dx with
  | error e => exact .error h
  | ok d =>
    have hkeeps := hkept d hd
    have hbase : x₀.desk.Keeps dx := h.seat.kept
    exact .ok ⟨⟨⟨hkeeps.contents.trans hbase.contents, hkeeps.tags.trans hbase.tags,
      hkeeps.fonts.trans hbase.fonts⟩, h.seat.size, rfl, h.seat.memory⟩, rfl, rfl⟩

theorem paired_print (h : Abreast b x₀ y₀ x y) (handle : Int32) (data : ByteArray) :
    Paired (Abreast b x₀ y₀) (print handle data x) (print handle data y) :=
  paired_change h (fun _ => Desk.keeps_write) (Desk.write_withContents ..)

end Serving

namespace Session
open Serving

/-- What a call that opens no file does, and what it returns, depends neither on the
contents nor on the memory beyond what it hands over. -/
theorem paired_serve (h : Abreast b x₀ y₀ x y) (host : Host σ) {call : Call Int32}
    (hopen : call.isOpen = false) (hhanded : call.handed x.memory = call.handed y.memory) :
    Paired (Abreast b x₀ y₀) (serve host call x) (serve host call y) := by
  cases call with
  | reset => cases hopen
  | rewrite => cases hopen
  | close handle => exact .bind (paired_query h rfl) fun _ {s t} h => .ok h
  | atEnd handle => exact .map (paired_query h rfl) _
  | atLineEnd handle => exact .map (paired_query h rfl) _
  | status handle => exact .map (paired_query h rfl) _
  | get handle pointer length =>
    exact .bind (paired_onSeat h (Desk.paired_get h.seat ..)) fun _ {s t} h => .ok h
  | put handle pointer length =>
    have hread : x.memory.read (Memory.address pointer) (Memory.address length) =
        y.memory.read (Memory.address pointer) (Memory.address length) := hhanded
    change Paired _ ((onDesk (·.put x.memory handle _ _) >>= fun _ => pure none) x)
      ((onDesk (·.put y.memory handle _ _) >>= fun _ => pure none) y)
    refine .bind (paired_change h ?_ ?_) fun _ {s t} h => .ok h
    · intro d hd
      simp only [Desk.put] at hd
      split at hd
      · cases hd
      · exact Desk.keeps_write hd
    · simp only [Desk.put, hread]
      split
      · rfl
      · exact Desk.write_withContents ..
  | inputLine handle bypass buffer first last reserve capacity =>
    have hfirst : x.memory.readWord (Memory.address first) = y.memory.readWord (Memory.address first) :=
      congrArg (Except.map Memory.wordOf) hhanded
    refine .bind (paired_onSeat h (Desk.paired_inputLine h.seat handle hfirst)) fun _ {s t} h => .ok h
  | printString handle pointer =>
    refine .bind (paired_read h hhanded) fun text {s t} h => ?_
    exact .bind (paired_print h ..) fun _ {s t} h => .ok h
  | printChar handle char => exact .bind (paired_print h ..) fun _ {s t} h => .ok h
  | printInteger handle value => exact .bind (paired_print h ..) fun _ {s t} h => .ok h
  | printReal handle bits => exact .bind (paired_print h ..) fun _ {s t} h => .ok h
  | printBoolean handle value => exact .bind (paired_print h ..) fun _ {s t} h => .ok h
  | printNewline handle => exact .bind (paired_print h ..) fun _ {s t} h => .ok h
  | minutes => exact .ok h
  | day => exact .ok h
  | month => exact .ok h
  | year => exact .ok h
  | finalEnd =>
    refine .bind (paired_change h ?_ rfl) fun _ {s t} h => .ok h
    intro d hd
    cases hd
    exact ⟨rfl, rfl, rfl⟩

end Session
end Galley
