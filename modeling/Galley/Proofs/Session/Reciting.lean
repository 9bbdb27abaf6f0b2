import Galley.Proofs.Session.Dialogue

/-! # A guest that recites its calls

`Guest.reciting` makes the calls of a list, one after the other and whatever they return, and
leaves.  Its dialogue has these calls (`Session.recites`, `Session.recites_nothing`). -/
namespace Galley

/-- A guest that makes the calls of a list, whatever they return. -/
def Guest.reciting : Guest (List (Call Int32)) where
  enter _ calls := .ok calls
  step calls m :=
    match calls with
    | [] => ⟨[], m, .leave⟩
    | call :: rest => ⟨rest, m, .call call⟩
  callsOn _ := false
  resume rest _ := .goOn rest

/-- It as an engine. -/
def Engine.reciting (calls : List (Call Int32)) : Engine (List (Call Int32)) where
  guest := .reciting
  minPages := 0
  maxPages := 65536
  isLinked := true
  data := []
  initial := calls
  start := []
  startCallsOn := false
  ready := id
  exports _ := true

namespace Session
open Serving

variable {h : Host (List (Call Int32))} {s t : Session (List (Call Int32))} {call : Call Int32}
  {rest : List (Call Int32)} {result : Option Int32}

/-- It makes its next call. -/
theorem recites (hguest : h.guest = .reciting) (hs : s.guest = call :: rest)
    (hserve : serve h call { s with guest := rest } = .ok result t) (n : Nat) :
    dialogue h (n + 1) .guest s = ⟨call, s.desk, s.memory, result⟩ :: dialogue h n .guest t ∧
      runTurns h (n + 1) .guest s = runTurns h n .guest t := by
  have hstep : h.guest.step s.guest s.memory = ⟨rest, s.memory, .call call⟩ := by
    rw [hguest, hs]
    rfl
  have hexchanges : exchanges h .guest s = [⟨call, s.desk, s.memory, result⟩] := by
    rw [exchanges, spoken, hstep, stepped, hstep]
    dsimp only
    rw [hserve, exchanged]
  have hturn : takeTurn h .guest s = .ok (some .guest) t := takeTurn_of_call hstep hserve (by rw [hguest]; rfl)
  refine ⟨?_, ?_⟩
  · rw [dialogue, hexchanges, hturn]
    rfl
  · rw [runTurns_succ, hturn]

/-- It leaves at the end of its list. -/
theorem recites_nothing (hguest : h.guest = .reciting) (hs : s.guest = [])
    (hphase : s.suspension.phase = .running) (n : Nat) :
    dialogue h (n + 2) .guest s = [] ∧ runTurns h (n + 2) .guest s = .ok () s := by
  have hstep : h.guest.step s.guest s.memory = ⟨s.guest, s.memory, .leave⟩ := by
    rw [hguest, hs]
    rfl
  have hexchanges : exchanges h .guest s = [] := by rw [exchanges, spoken, hstep]
  refine ⟨?_, runTurns_of_leave hstep hphase n⟩
  rw [dialogue, hexchanges, takeTurn_of_leave hstep, List.nil_append]
  dsimp only
  rw [dialogue, takeTurn_of_running hphase]
  rfl

end Session
end Galley
