import Galley.Proofs.File.Acts
import Galley.Proofs.File.Voice
import Galley.Proofs.Session.Setup
import Galley.Proofs.Session.Sparing

/-! # The dialogue of a session

The `dialogue` of a session lists the calls that returned, in order, each with the files and
the memory that it found and with its result.  There are six kinds of such calls, by what
they leave of the files (`Exchange.Leaves`, `leaves_of_serve`); a call that fails leaves the
console as it was.  Between calls the host stores files at most.  So what is `Carried` by
these kinds and by storing a file holds of the dialogue and the files at the end of every
run, and up to the last call that returned where a run is stopped (`Carried.run`). -/
namespace Galley

/-- A call that returned. -/
structure Exchange where
  call : Call Int32
  /-- The files that the call found. -/
  desk : Desk
  /-- The memory that it found. -/
  memory : Memory
  result : Option Int32

namespace Call

/-- What a call writes to which handle. -/
def written? (m : Memory) : Call Int32 → Option (Int32 × ByteArray)
  | .put handle pointer length =>
    (m.read (Memory.address pointer) (Memory.address length)).toOption.map (handle, ·)
  | .printString handle pointer => (m.readPascal (Memory.address pointer)).toOption.map (handle, ·)
  | .printChar handle char => some (handle, oneByte char.toUInt32.toUInt8)
  | .printInteger handle value => some (handle, (toString value.toInt).toUTF8)
  | .printReal handle bits => some (handle, (Decimal.Real.ofBits bits).text.toUTF8)
  | .printBoolean handle value => some (handle, (if value == 0 then "FALSE" else "TRUE").toUTF8)
  | .printNewline handle => some (handle, oneByte 0x0A)
  | _ => none

/-- The direction in which a call opens a file. -/
def opens? : Call Int32 → Option Mode
  | .reset .. => some .read
  | .rewrite .. => some .write
  | _ => none

/-- A call that asks for something and does nothing. -/
def asks : Call Int32 → Bool
  | .close _ | .atEnd _ | .atLineEnd _ | .status _ | .minutes | .day | .month | .year => true
  | _ => false

end Call

/-- What a call that returned leaves of the files. -/
inductive Exchange.Leaves (x : Exchange) : Desk → Prop where
  /-- An open puts a file into the table, and returns its place there. -/
  | opened {mode : Mode} {raw : ByteArray} {resuming : Bool} {f : OpenFile} (hmode : x.call.opens? = some mode)
      (hraw : x.call.handed x.memory = .ok raw) (hopen : x.desk.openRaw raw mode resuming = x.desk.push f)
      (hresult : x.result = some (Int32.ofNat x.desk.table.size)) : Leaves x (x.desk.push f).2
  /-- An open misses a file, and the guest is to unwind. -/
  | missed (hmode : x.call.opens? = some .read) : Leaves x x.desk
  | wrote {handle : Int32} {data : ByteArray} {d : Desk} (hdata : x.call.written? x.memory = some (handle, data))
      (hwrite : x.desk.write handle data = .ok d) : Leaves x d
  | got {handle pointer length : Int32} {y : Desk.Seat} (hcall : x.call = .get handle pointer length)
      (hget : Desk.get handle (Memory.address pointer) (Memory.address length) ⟨x.desk, x.memory⟩ = .ok () y) :
      Leaves x y.desk
  | lined {handle bypass buffer first last reserve capacity : Int32} {more : Bool} {y : Desk.Seat}
      (hcall : x.call = .inputLine handle bypass buffer first last reserve capacity)
      (hline : Desk.inputLine handle
        { bypass := bypass != 0, buffer := Memory.address buffer, first := Memory.address first,
          last := Memory.address last, capacity := Memory.address capacity } ⟨x.desk, x.memory⟩ = .ok more y)
      (hresult : x.result = some (Session.truth more)) : Leaves x y.desk
  | finished (hcall : x.call = .finalEnd) : Leaves x x.desk.finish
  | asked (hasks : x.call.asks = true) : Leaves x x.desk

variable {σ α : Type}

namespace Session
open Serving

/-- What a served call adds to the dialogue. -/
def exchanged (call : Call Int32) (s : Session σ) : EStateM.Result Stop (Session σ) (Option Int32) → List Exchange
  | .ok result _ => [{ call, desk := s.desk, memory := s.memory, result }]
  | .error _ _ => []

/-- What a step of the guest adds to the dialogue. -/
def spoken (answer : Call Int32 → Serving σ (Option Int32)) (step : σ → Memory → Action σ) (s : Session σ) :
    List Exchange :=
  match (step s.guest s.memory).move with
  | .call call => exchanged call (s.stepped step) (answer call (s.stepped step))
  | _ => []

/-- What a turn adds to the dialogue. -/
def exchanges (h : Host σ) (turn : Turn) (s : Session σ) : List Exchange :=
  match turn with
  | .guest => spoken (serve h) h.guest.step s
  | .host => []

/-- The dialogue of a session from a turn on, as far as a budget goes. -/
def dialogue (h : Host σ) : Nat → Turn → Session σ → List Exchange
  | 0, _, _ => []
  | budget + 1, turn, s =>
    exchanges h turn s ++
      match takeTurn h turn s with
      | .ok (some turn) s' => dialogue h budget turn s'
      | _ => []

/-- The dialogue of a run of the main function. -/
def runDialogue (h : Host σ) (budget : Nat) (s : Session σ) : List Exchange :=
  match enter h .main s with
  | .ok () s => dialogue h budget .guest s
  | .error _ _ => []

/-- The dialogue of a start function. -/
def startDialogue (h : Host σ) : List (σ → Memory → Action σ) → Session σ → List Exchange
  | [], _ => []
  | step :: more, s =>
    spoken (serveDetached h) step s ++
      match perform h (serveDetached h) step s with
      | .ok .guest s' => startDialogue h more s'
      | _ => []

/-- The dialogue of setting up a session. -/
def setupDialogue (h : Host σ) (e : Engine σ) (pages : Nat) (image : ByteArray) (desk : Desk) (asked : Array String) :
    List Exchange :=
  match seated? h e pages image desk asked with
  | some s => startDialogue h e.start s
  | none => []

variable {h : Host σ} {s s' : Session σ} {call : Call Int32} {result : Option Int32}

/-! ## Calls that return -/

theorem leaves_of_openNamed {mode : Mode} {length pointer r : Int32}
    (hmode : call.opens? = some mode)
    (hhanded : call.handed s.memory = s.memory.read (Memory.address pointer) (Memory.address length))
    (hs : openNamed h mode length pointer s = .ok r s') :
    (Exchange.mk call s.desk s.memory (some r)).Leaves s'.desk := by
  obtain ⟨resuming, t, ht, hlook⟩ := bind_eq_ok hs
  obtain ⟨raw, u, hu, hopen⟩ := bind_eq_ok hlook
  obtain ⟨outcome, v, hv, hrest⟩ := bind_eq_ok hopen
  -- waking the guest changes neither the files nor the memory
  have hseat : t.desk = s.desk ∧ t.memory = s.memory := by
    rcases wakeIfSleeping_cases ht with ⟨-, -, rfl⟩ | ⟨-, -, guest, rfl⟩ <;> exact ⟨rfl, rfl⟩
  obtain ⟨hraw, rfl⟩ := look_eq_ok hu
  rw [hseat.2] at hraw
  obtain ⟨rfl, rfl⟩ : outcome = (u.desk.openRaw raw mode resuming).1 ∧
      v = { u with desk := (u.desk.openRaw raw mode resuming).2 } := by
    cases hv
    exact ⟨rfl, rfl⟩
  rw [hseat.1] at hrest
  rcases s.desk.openRaw_cases raw mode resuming with ⟨f, hpush⟩ | ⟨name, -, hfetch, rfl, -⟩
  · rw [hpush] at hrest
    cases hrest
    exact .opened hmode (hhanded.trans hraw) hpush rfl
  · rw [hfetch] at hrest
    obtain ⟨_, w, hw, hlast⟩ := bind_eq_ok hrest
    cases hlast
    obtain ⟨-, guest, memory, rfl⟩ := suspend_cases hw
    exact .missed hmode

theorem onDesk_eq_ok {change : Desk → Except FileFailure Desk} (hs : onDesk change s = .ok () s') :
    change s.desk = .ok s'.desk := by
  simp only [onDesk] at hs
  split at hs
  next hchange =>
    cases hs
    exact hchange
  next => cases hs

theorem onSeat_eq_ok {op : Desk.Operation α} {a : α} (hs : onSeat op s = .ok a s') :
    op ⟨s.desk, s.memory⟩ = .ok a ⟨s'.desk, s'.memory⟩ := by
  simp only [onSeat] at hs
  split at hs
  next hop =>
    cases hs
    exact hop
  next => cases hs

theorem query_eq_ok {ask : Desk → Except FileError α} {a : α} (hs : query ask s = .ok a s') : s' = s := by
  simp only [query] at hs
  split at hs
  · cases hs
    rfl
  · cases hs

theorem leaves_of_print {handle : Int32} {data : ByteArray} (hdata : call.written? s.memory = some (handle, data))
    (hs : (do print handle data; pure none : Serving σ (Option Int32)) s = .ok result s') :
    (Exchange.mk call s.desk s.memory result).Leaves s'.desk := by
  obtain ⟨_, t, ht, hpure⟩ := bind_eq_ok hs
  cases hpure
  exact .wrote hdata (onDesk_eq_ok ht)

/-- **A call that returned is of one of these kinds.** -/
theorem leaves_of_serve (hs : serve h call s = .ok result s') :
    (Exchange.mk call s.desk s.memory result).Leaves s'.desk := by
  cases call with
  | reset length pointer =>
    obtain ⟨r, hr, rfl⟩ := map_eq_ok hs
    exact leaves_of_openNamed rfl rfl hr
  | rewrite length pointer =>
    obtain ⟨r, hr, rfl⟩ := map_eq_ok hs
    exact leaves_of_openNamed rfl rfl hr
  | close handle =>
    obtain ⟨_, t, ht, hpure⟩ := bind_eq_ok hs
    cases hpure
    rw [query_eq_ok ht]
    exact .asked rfl
  | atEnd handle =>
    obtain ⟨_, ht, -⟩ := map_eq_ok hs
    rw [query_eq_ok ht]
    exact .asked rfl
  | atLineEnd handle =>
    obtain ⟨_, ht, -⟩ := map_eq_ok hs
    rw [query_eq_ok ht]
    exact .asked rfl
  | status handle =>
    obtain ⟨_, ht, -⟩ := map_eq_ok hs
    rw [query_eq_ok ht]
    exact .asked rfl
  | get handle pointer length =>
    obtain ⟨⟨⟩, t, ht, hpure⟩ := bind_eq_ok hs
    cases hpure
    exact .got (y := s'.seat) rfl (onSeat_eq_ok ht)
  | put handle pointer length =>
    obtain ⟨memory, t, hmemory, hput⟩ := bind_eq_ok hs
    cases hmemory
    obtain ⟨⟨⟩, t, ht, hpure⟩ := bind_eq_ok hput
    cases hpure
    have hput := onDesk_eq_ok ht
    rw [Desk.put] at hput
    split at hput
    · cases hput
    next data hread => exact .wrote (by simp only [Call.written?, hread]; rfl) hput
  | inputLine handle bypass buffer first last reserve capacity =>
    obtain ⟨more, t, ht, hpure⟩ := bind_eq_ok hs
    cases hpure
    exact .lined (y := s'.seat) rfl (onSeat_eq_ok ht) rfl
  | printString handle pointer =>
    obtain ⟨text, t, ht, hprint⟩ := bind_eq_ok hs
    obtain ⟨hread, rfl⟩ := look_eq_ok ht
    exact leaves_of_print (by simp only [Call.written?, hread]; rfl) hprint
  | printChar handle char => exact leaves_of_print rfl hs
  | printInteger handle value => exact leaves_of_print rfl hs
  | printReal handle bits => exact leaves_of_print rfl hs
  | printBoolean handle value => exact leaves_of_print rfl hs
  | printNewline handle => exact leaves_of_print rfl hs
  | minutes =>
    cases hs
    exact .asked rfl
  | day =>
    cases hs
    exact .asked rfl
  | month =>
    cases hs
    exact .asked rfl
  | year =>
    cases hs
    exact .asked rfl
  | finalEnd =>
    obtain ⟨⟨⟩, t, ht, hpure⟩ := bind_eq_ok hs
    cases hpure
    have hfinish : s.desk.finish = s'.desk := Except.ok.inj (onDesk_eq_ok ht)
    rw [← hfinish]
    exact .finished rfl

/-! ## Calls that fail -/

section Failing
variable {β : Type} {e : Stop}

theorem bind_pure_eq_error {op : Serving σ α} {k : α → β}
    (hs : (op >>= fun a => pure (k a)) s = .error e s') : op s = .error e s' := by
  obtain hop | ⟨a, t, -, hpure⟩ := bind_eq_error hs
  · exact hop
  · cases hpure

theorem onSeat_eq_error {op : Desk.Operation α} (hs : onSeat op s = .error e s') :
    ∃ cause y, op ⟨s.desk, s.memory⟩ = .error cause y ∧ s'.desk = y.desk := by
  simp only [onSeat] at hs
  split at hs
  · cases hs
  next hop =>
    cases hs
    exact ⟨_, _, hop, rfl⟩

theorem aside_console : Aside fun s : Session σ => s.desk.console := ⟨fun _ _ _ _ => rfl, fun _ _ => rfl⟩

theorem console_of_openNamed {mode : Mode} {length pointer : Int32}
    (hs : openNamed h mode length pointer s = .error e s') : s'.desk.console = s.desk.console := by
  have hspares := spares_openNamed (h := h) (s := s) aside_console rfl mode length pointer
  rwa [hs] at hspares

theorem console_of_query {ask : Desk → Except FileError α} (hs : query ask s = .error e s') :
    s'.desk.console = s.desk.console := by
  simp only [query] at hs
  split at hs <;> cases hs
  rfl

theorem console_of_onDesk {change : Desk → Except FileFailure Desk} (hs : onDesk change s = .error e s') :
    s'.desk.console = s.desk.console := by
  simp only [onDesk] at hs
  split at hs <;> cases hs
  rfl

/-- **A call that fails leaves the console as it was.** -/
theorem console_of_serve (hs : serve h call s = .error e s') : s'.desk.console = s.desk.console := by
  cases call with
  | reset length pointer => exact console_of_openNamed (map_eq_error hs)
  | rewrite length pointer => exact console_of_openNamed (map_eq_error hs)
  | close handle => exact console_of_query (bind_pure_eq_error hs)
  | atEnd handle => exact console_of_query (map_eq_error hs)
  | atLineEnd handle => exact console_of_query (map_eq_error hs)
  | status handle => exact console_of_query (map_eq_error hs)
  | get handle pointer length =>
    obtain ⟨cause, y, hget, hdesk⟩ := onSeat_eq_error (bind_pure_eq_error hs)
    have hends := Desk.endsWith_get s.desk s.memory handle (Memory.address pointer) (Memory.address length)
    rw [hget] at hends
    rw [hdesk]
    exact congrArg Prod.fst hends
  | put handle pointer length => exact console_of_onDesk (bind_pure_eq_error hs)
  | inputLine handle bypass buffer first last reserve capacity =>
    obtain ⟨cause, y, hline, hdesk⟩ := onSeat_eq_error (bind_pure_eq_error hs)
    have hends := Desk.endsWith_inputLine s.desk s.memory handle
      { bypass := bypass != 0, buffer := Memory.address buffer, first := Memory.address first,
        last := Memory.address last, capacity := Memory.address capacity }
    rw [hline] at hends
    rw [hdesk]
    exact congrArg Prod.fst hends
  | printString handle pointer =>
    have hlook : Spares (fun s : Session σ => s.desk.console) s.desk.console
        (look (·.readPascal (Memory.address pointer)) s) := spares_look rfl _
    obtain hread | ⟨text, t, hread, hprint⟩ := bind_eq_error hs
    · rwa [hread] at hlook
    · rw [hread] at hlook
      exact (console_of_onDesk (bind_pure_eq_error hprint)).trans hlook
  | printChar handle char => exact console_of_onDesk (bind_pure_eq_error hs)
  | printInteger handle value => exact console_of_onDesk (bind_pure_eq_error hs)
  | printReal handle bits => exact console_of_onDesk (bind_pure_eq_error hs)
  | printBoolean handle value => exact console_of_onDesk (bind_pure_eq_error hs)
  | printNewline handle => exact console_of_onDesk (bind_pure_eq_error hs)
  | minutes => cases hs
  | day => cases hs
  | month => cases hs
  | year => cases hs
  | finalEnd => cases hs

end Failing

/-! ## Along a run -/

/-- Something about the dialogue so far and the files that every call that returns carries on,
and every file that the host stores. -/
structure Carried (P : List Exchange → Desk → Prop) : Prop where
  stored : ∀ {l d} (name : String) (content : ByteArray), P l d → P l (d.insert name content)
  returned : ∀ {l x d}, P l x.desk → x.Leaves d → P (l ++ [x]) d

/-- An action that succeeds leaves files of which `P` holds; one that fails may have changed
such files, but not their console. -/
def Ends (P : Desk → Prop) : EStateM.Result Stop (Session σ) α → Prop
  | .ok _ s => P s.desk
  | .error _ s => ∃ d, P d ∧ s.desk.console = d.console

theorem Ends.of_left {P : Desk → Prop} {r : EStateM.Result Stop (Session σ) α} (h : P (left r).desk) : Ends P r := by
  cases r with
  | ok a s => exact h
  | error e s => exact ⟨s.desk, h, rfl⟩

section Carrying
variable {P : List Exchange → Desk → Prop} {l : List Exchange}

theorem Carried.serve (hP : Carried P) (hs : P l s.desk) (call : Call Int32) :
    Ends (P (l ++ exchanged call s (serve h call s))) (serve h call s) := by
  cases hserve : Session.serve h call s with
  | ok result s' => exact hP.returned (x := ⟨call, s.desk, s.memory, result⟩) hs (leaves_of_serve hserve)
  | error e s' =>
    refine ⟨s.desk, ?_, console_of_serve hserve⟩
    rwa [exchanged, List.append_nil]

theorem Carried.serveDetached (hP : Carried P) (hs : P l s.desk) (call : Call Int32) :
    Ends (P (l ++ exchanged call s (serveDetached h call s))) (serveDetached h call s) := by
  by_cases hmemory : call.usesMemory = true
  · have hsilent : P (l ++ []) s.desk := by rwa [List.append_nil]
    simp only [Session.serveDetached, hmemory, if_true]
    exact ⟨s.desk, hsilent, rfl⟩
  · simp only [Session.serveDetached, hmemory]
    exact hP.serve hs call

/-- A step of the guest. -/
theorem ends_perform (h : Host σ) (answer : Call Int32 → Serving σ (Option Int32)) (step : σ → Memory → Action σ)
    (hanswer : ∀ {s : Session σ} call, P l s.desk → Ends (P (l ++ exchanged call s (answer call s))) (answer call s))
    (hs : P l s.desk) : Ends (P (l ++ spoken answer step s)) (perform h answer step s) := by
  have hsilent : P (l ++ []) s.desk := by rwa [List.append_nil]
  rw [perform_eq, spoken]
  cases (step s.guest s.memory).move with
  | goOn => exact hsilent
  | leave => exact hsilent
  | trap cause => exact ⟨s.desk, hsilent, rfl⟩
  | spin => exact ⟨s.desk, hsilent, rfl⟩
  | call call =>
    have hcall := hanswer (s := s.stepped step) call hs
    dsimp only
    generalize answer call (s.stepped step) = r at hcall ⊢
    cases r with
    | error e t => exact hcall
    | ok result t =>
      rw [answered]
      cases h.guest.resume t.guest result <;> exact hcall

theorem Carried.takeTurn (hP : Carried P) (hs : P l s.desk) (turn : Turn) :
    Ends (P (l ++ exchanges h turn s)) (takeTurn h turn s) := by
  cases turn with
  | guest =>
    have hperform := ends_perform h (Session.serve h) h.guest.step (fun call hs => hP.serve hs call) hs
    rw [takeTurn_guest, exchanges]
    generalize perform h (Session.serve h) h.guest.step s = r at hperform ⊢
    cases r <;> exact hperform
  | host =>
    rw [exchanges, List.append_nil]
    refine .of_left ?_
    -- the host stores the file that the guest waits for, or nothing
    rw [left_takeTurn_host]
    rcases stocks_settle h s with hdesk | ⟨name, -, hdesk⟩
    · rw [hdesk]
      exact hs
    · rw [hdesk, stocked]
      split
      · exact hP.stored _ _ hs
      · exact hs

/-- **A run carries it on over its dialogue.** -/
theorem Carried.runTurns (hP : Carried P) (hs : P l s.desk) (budget : Nat) (turn : Turn) :
    Ends (P (l ++ dialogue h budget turn s)) (runTurns h budget turn s) := by
  induction budget generalizing l turn s with
  | zero =>
    refine ⟨s.desk, ?_, rfl⟩
    rwa [dialogue, List.append_nil]
  | succ budget ih =>
    have hturn := hP.takeTurn (h := h) hs turn
    rw [runTurns_succ, dialogue, ← List.append_assoc]
    generalize Session.takeTurn h turn s = r at hturn ⊢
    rcases r with ⟨next | next, t⟩ | ⟨e, t⟩
    · rw [List.append_nil]
      exact hturn
    · exact ih hturn next
    · rw [List.append_nil]
      exact hturn

theorem Carried.run (hP : Carried P) (hs : P l s.desk) (budget : Nat) :
    Ends (P (l ++ runDialogue h budget s)) (run h budget s) := by
  rw [run_eq, runDialogue]
  cases henter : enter h .main s with
  | ok u t =>
    obtain ⟨guest, rfl⟩ := enter_cases henter
    exact hP.runTurns (s := { s with guest }) hs budget .guest
  | error e t =>
    obtain ⟨guest, hleft⟩ := left_enter h .main s
    rw [henter] at hleft
    change t = { s with guest } at hleft
    subst hleft
    refine ⟨s.desk, ?_, rfl⟩
    rwa [List.append_nil]

theorem Carried.runStart (hP : Carried P) {steps : List (σ → Memory → Action σ)} (hs : P l s.desk)
    (hrun : runStart h steps s = .ok () s') : P (l ++ startDialogue h steps s) s'.desk := by
  induction steps generalizing l s with
  | nil =>
    cases hrun
    rwa [startDialogue, List.append_nil]
  | cons step steps ih =>
    have hperform := ends_perform h (Session.serveDetached h) step (fun call hs => hP.serveDetached hs call) hs
    obtain ⟨turn, t, ht, hrest⟩ := bind_eq_ok hrun
    rw [startDialogue, ← List.append_assoc, ht]
    rw [ht] at hperform
    cases turn with
    | guest => exact ih hperform hrest
    | host =>
      cases hrest
      rwa [List.append_nil]

/-- A session that is set up carries it on over the dialogue with the start function. -/
theorem Carried.start (hP : Carried P) {e : Engine σ} {pages : Nat} {image : ByteArray} {d : Desk}
    {asked : Array String} (hd : P [] d) (hstart : start h e pages image d asked = (.ok (), s)) :
    P (setupDialogue h e pages image d asked) s.desk := by
  rw [start_eq] at hstart
  rw [setupDialogue]
  split at hstart
  · cases hstart
  next first hseated =>
    have hfirst : first.desk = d := by
      simp only [seated?] at hseated
      split at hseated
      · obtain ⟨memory, -, rfl⟩ := Option.map_eq_some_iff.mp hseated
        rfl
      · cases hseated
    split at hstart
    · cases hstart
    next t hrun =>
      split at hstart
      · cases hstart
      · cases hstart
        have hstarted := hP.runStart (l := []) (s := first) (hfirst ▸ hd) hrun
        rw [hseated]
        exact hstarted

end Carrying

end Session
end Galley
