import Galley.Proofs.Guest.Resumable
import Galley.Proofs.Session.History

/-! # From a miss to the completed open

An open of a name that is not known takes a guest that can be suspended through three
turns: it misses and unwinds, the host fetches the file and rewinds it, and it comes back to
the open, which is completed (`Missing.cycle`).  The guest is then as it was, and what the
host has fetched is on the desk. -/
namespace Galley.Session
open Serving

variable {σ : Type} {h : Host σ} {same : σ → σ → Prop}

/-! ## Going on from a turn -/

/-- The history from the end of a step on. -/
def historyAfter (h : Host σ) (budget : Nat) : EStateM.Result Stop (Session σ) Turn → List Happening
  | .ok turn s => history h budget turn s
  | .error _ _ => []

/-- The run from the end of a step on. -/
def runAfter (h : Host σ) (budget : Nat) :
    EStateM.Result Stop (Session σ) Turn → EStateM.Result Stop (Session σ) Unit
  | .ok turn s => runTurns h budget turn s
  | .error e s => .error e s

theorem history_guest (h : Host σ) (budget : Nat) (s : Session σ) :
    history h (budget + 1) .guest s =
      called h (serve h) h.guest.step s ++ historyAfter h budget (perform h (serve h) h.guest.step s) := by
  rw [history, happenings, takeTurn_guest]
  cases perform h (serve h) h.guest.step s <;> rfl

theorem runTurns_guest (h : Host σ) (budget : Nat) (s : Session σ) :
    runTurns h (budget + 1) .guest s = runAfter h budget (perform h (serve h) h.guest.step s) := by
  rw [runTurns_succ, takeTurn_guest]
  cases perform h (serve h) h.guest.step s <;> rfl

/-- The turn adds these happenings, and the run goes on from its result. -/
def Leads (h : Host σ) (turn : Turn) (s : Session σ) (happenings : List Happening)
    (r : EStateM.Result Stop (Session σ) Turn) : Prop :=
  ∀ budget, history h (budget + 1) turn s = happenings ++ historyAfter h budget r ∧
    runTurns h (budget + 1) turn s = runAfter h budget r

theorem leads_of_perform (h : Host σ) (s : Session σ) :
    Leads h .guest s (called h (serve h) h.guest.step s) (perform h (serve h) h.guest.step s) :=
  fun budget => ⟨history_guest h budget s, runTurns_guest h budget s⟩

/-- A step that ends in a call. -/
theorem leads_of_call {s : Session σ} {call : Call Int32}
    (hcall : (h.guest.step s.guest s.memory).move = .call call) :
    Leads h .guest s
      (reported h.control call (s.stepped h.guest.step) (serve h call (s.stepped h.guest.step)))
      (answered h (serve h call (s.stepped h.guest.step))) := by
  have hleads := leads_of_perform h s
  rwa [called, perform_eq, hcall] at hleads

/-- A step that ends in a call which is completed. -/
theorem leads_of_completed {s t : Session σ} {call : Call Int32} {result : Option Int32}
    (hcall : (h.guest.step s.guest s.memory).move = .call call)
    (hserve : serve h call (s.stepped h.guest.step) = .ok result t)
    (hcount : t.suspension.count = s.suspension.count) :
    Leads h .guest s [.completed call result (h.control.veil t.memory)] (answered h (.ok result t)) := by
  have hleads := leads_of_call hcall
  have hsame : t.suspension.count = (s.stepped h.guest.step).suspension.count := hcount
  rwa [hserve, reported_of_completed hsame] at hleads

theorem leads_of_settle {s s' : Session σ} (hsettle : settle h s = .ok false s') :
    Leads h .host s (supplied s s') (.ok .guest s') := by
  intro budget
  rw [history, happenings, runTurns_succ, takeTurn_host, hsettle]
  exact ⟨rfl, rfl⟩

/-! ## The cycle -/

/-- The guest is about to open, for reading, a file that is not known. -/
structure Missing (h : Host σ) (s : Session σ) (length pointer : Int32) (raw : ByteArray) (name : String) :
    Prop where
  move : (h.guest.step s.guest s.memory).move = .call (.reset length pointer)
  read : (s.stepped h.guest.step).memory.read (Memory.address pointer) (Memory.address length) = .ok raw
  fetch : s.desk.openRaw raw .read false = (.fetch name, s.desk)
  unknown : ¬ s.desk.Knows name

/-- The guest runs, there is room for the control words, and every export can be called. -/
structure Runs (h : Host σ) (s : Session σ) : Prop where
  running : s.suspension.phase = .running
  pending : s.suspension.pending = none
  room : h.control.start + 8 ≤ s.memory.size

theorem Runs.moved {s : Session σ} (hruns : Runs h s) (guest : σ) (desk : Desk) : Runs h { s with guest, desk } :=
  ⟨hruns.running, hruns.pending, hruns.room⟩

/-- A guest that makes calls can be entered by every export: there is a stack, or its main
function could not have been entered. -/
theorem canCall_of_call (hg : h.guest.Resumable h.control same) (hmain : h.canCall (h.guest.callsOn .main)) {s : σ}
    {m : Memory} {call : Call Int32} (hcall : (h.guest.step s m).move = .call call) (e : Export) :
    h.canCall (h.guest.callsOn e) := by
  rw [Host.canCall, hg.callsOn hcall] at hmain
  have hstack : h.hasStack = true := by simpa using hmain
  rw [Host.canCall, hstack]
  rfl

theorem stocked_getElem? {name : String} {d : Desk} (hunknown : ¬ d.Knows name) :
    (stocked h name d).contents[name]? = h.loader.content? name := by
  unfold stocked
  cases h.loader.content? name with
  | some content => exact Std.HashMap.getElem?_insert_self
  | none =>
    rw [← Option.not_isSome_iff_eq_none]
    exact fun hstored => hunknown (Or.inr (Or.inl hstored))

/-- The turn of the host after a guest has unwound. -/
theorem settle_of_unwound {s : Session σ} {name : String} {unwound rewinding rewound : σ}
    (hcan : ∀ e, h.canCall (h.guest.callsOn e)) (hphase : s.suspension.phase = .unwinding)
    (hpending : s.suspension.pending = some name) (hunwound : h.guest.enter .stopUnwind s.guest = .ok unwound)
    (hrewinding : h.guest.enter (.startRewind h.control.address) unwound = .ok rewinding)
    (hrewound : h.guest.enter .main rewinding = .ok rewound) :
    ∃ asked, settle h s = .ok false
      { s with guest := rewound, desk := stocked h name s.desk, suspension := s.suspension.slept, asked } := by
  have hsleep : s.suspension.sleep = .ok (name, s.suspension.slept) := by
    rw [Suspension.sleep, hphase, hpending]
    rfl
  have hsupply := supply_eq h name { s with guest := unwound, suspension := s.suspension.slept }
  refine ⟨Loader.askedAfter (h.loader.fetchOptional name s.asked), ?_⟩
  rw [settle_of_unwinding hphase]
  simp only [bind, EStateM.bind, enter_eq_ok s (hcan _) hunwound, transition, hsleep, hsupply]
  rw [enter_eq_ok _ (hcan _) hrewinding]
  dsimp only
  rw [enter_eq_ok _ (hcan _) hrewound]
  rfl

/-- What is left of an open once the guest is back at it: the guest as it was in `s`, its
memory the same but for the control words, and the file on the desk. -/
structure Reopened (h : Host σ) (same : σ → σ → Prop) (s : Session σ) (raw : ByteArray) (d : Desk) (handle : Nat)
    (t : Session σ) : Prop where
  guest : same s.guest t.guest
  memory : h.control.Alike s.memory t.memory
  opened : d.openRaw raw .read true = (.opened handle, t.desk)
  running : t.suspension.phase = .running
  pending : t.suspension.pending = none

theorem Reopened.runs {s t : Session σ} {raw : ByteArray} {d : Desk} {handle : Nat}
    (hreopened : Reopened h same s raw d handle t) (hruns : Runs h s) : Runs h t where
  running := hreopened.running
  pending := hreopened.pending
  room := by
    rw [← hreopened.memory.size]
    exact hruns.room

/-- The three turns of a missed open: the guest misses and goes `away`, the host fetches the
file and leaves it `rewound`, and it comes back to the open and is at `t`. -/
structure Cycle (h : Host σ) (same : σ → σ → Prop) (s : Session σ) (length pointer : Int32) (raw : ByteArray)
    (name : String) (handle : Nat) (away rewound t : Session σ) : Prop where
  missed : Leads h .guest s [.missed name] (.ok .host away)
  fetched : Leads h .host away ((h.loader.content? name).toList.map (.fetched name)) (.ok .guest rewound)
  completed : Leads h .guest rewound
    [.completed (.reset length pointer) (some (Int32.ofNat handle)) (h.control.veil t.memory)]
    (answered h (.ok (some (Int32.ofNat handle)) t))
  reopened : Reopened h same (s.stepped h.guest.step) raw (stocked h name s.desk) handle t
  /-- The control words are what the suspension wrote. -/
  prepared : h.control.prepare (s.stepped h.guest.step).memory = .ok () rewound.memory
  again : (h.guest.step rewound.guest rewound.memory).move = .call (.reset length pointer)
  memory : t.memory = (h.guest.step rewound.guest rewound.memory).memory

namespace Cycle

variable {s away rewound t : Session σ} {length pointer : Int32} {raw : ByteArray} {name : String} {handle : Nat}

theorem history_eq (hcycle : Cycle h same s length pointer raw name handle away rewound t) (n : Nat) :
    history h (n + 3) .guest s =
      [.missed name] ++ ((h.loader.content? name).toList.map (.fetched name) ++
        ([.completed (.reset length pointer) (some (Int32.ofNat handle)) (h.control.veil t.memory)] ++
          historyAfter h n (answered h (.ok (some (Int32.ofNat handle)) t)))) := by
  rw [(hcycle.missed (n + 2)).1, historyAfter, (hcycle.fetched (n + 1)).1, historyAfter, (hcycle.completed n).1]

theorem runTurns_eq (hcycle : Cycle h same s length pointer raw name handle away rewound t) (n : Nat) :
    runTurns h (n + 3) .guest s = runAfter h n (answered h (.ok (some (Int32.ofNat handle)) t)) := by
  rw [(hcycle.missed (n + 2)).2, runAfter, (hcycle.fetched (n + 1)).2, runAfter, (hcycle.completed n).2]

end Cycle

/-- **A missed open takes three turns,** after which it is completed as if the guest had not
been away. -/
theorem Missing.cycle {s : Session σ} {length pointer : Int32} {raw : ByteArray} {name : String}
    (hmissing : Missing h s length pointer raw name) (hg : h.guest.Resumable h.control same)
    (hdiscreet : ∀ {m'}, h.control.Alike (s.stepped h.guest.step).memory m' →
      m'.read (Memory.address pointer) (Memory.address length) = .ok raw)
    (hguest : same s.guest s.guest) (hruns : Runs h s) (hcan : ∀ e, h.canCall (h.guest.callsOn e)) :
    ∃ handle away rewound t, Cycle h same s length pointer raw name handle away rewound t := by
  obtain ⟨unwinding, away, unwound, rewinding, rewound, hunwinding, haway, hunwound, hrewinding, hrewound, hagain⟩ :=
    hg.comesBack hguest hmissing.move
  -- the guest misses
  have hroom : h.control.start + 8 ≤ (s.stepped h.guest.step).memory.size := by
    simpa only [stepped, hg.size] using hruns.room
  obtain ⟨memory, hprepare, halike⟩ := ControlBlock.prepare_eq_ok hroom
  have hmiss := openNamed_of_missed (s := s.stepped h.guest.step) hruns.running hmissing.read hmissing.fetch hprepare
    (hcan _) hunwinding
  have hfirst := leads_of_call hmissing.move
  rw [serve, map_of_ok hmiss some, reported_of_missed (Nat.succ_ne_self _) rfl, answered_of_leave haway] at hfirst
  -- the host fetches the file
  obtain ⟨asked, hsettle⟩ := settle_of_unwound (s := ⟨away, memory, s.desk, s.suspension.begun name, s.asked⟩)
    hcan rfl rfl hunwound hrewinding hrewound
  have hsecond := leads_of_settle hsettle
  simp only [supplied, Suspension.begun, stocked_getElem? hmissing.unknown] at hsecond
  -- the guest comes back
  obtain ⟨hmove, hmemory, woken, hwoken, hsame⟩ := hagain memory halike
  let back : Session σ := ⟨rewound, memory, stocked h name s.desk, (s.suspension.begun name).slept, asked⟩
  have hread : (back.stepped h.guest.step).memory.read (Memory.address pointer) (Memory.address length) = .ok raw :=
    hdiscreet hmemory
  obtain ⟨handle, d, hopened⟩ := (stocked h name s.desk).openRaw_of_resuming raw .read
  have hserve := openNamed_of_woken (s := back.stepped h.guest.step) rfl (hcan _) hwoken hread hopened
  let reopened : Session σ :=
    { back.stepped h.guest.step with guest := woken, desk := d, suspension := back.suspension.woken }
  refine ⟨handle, _, back, reopened, hfirst, hsecond, ?_, ⟨hsame, hmemory, hopened, rfl, rfl⟩, hprepare, hmove, rfl⟩
  exact leads_of_completed hmove (map_of_ok hserve some) rfl

end Galley.Session
