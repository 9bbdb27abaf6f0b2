import Galley.Proofs.Guest.Programs
import Galley.Proofs.Typesetter.Transparency

/-! # A program that prints a byte of its memory

`Program.showing w` opens a file for reading and prints the byte at the address `w`.  With the
address of a control word it is a guest that can be suspended and that tells a run that was
suspended from one that was not, so that suspension is not transparent to guests that hand
over control words (`suspension_shows`).  With an address below them it is discreet, and
`suspension_transparent` applies. -/
namespace Galley

/-! ## The program -/

namespace Program

/-- Opens the file without a name, and prints the byte at an address. -/
def showing (w : UInt32) : Program where
  code := #[.await (.reset (.literal 0) (.literal 0)) (Fin.last 15),
    .call (.put (.literal 4294967295) (.literal w) (.literal 1)) none]
  start := []
  data := []
  minPages := 0
  maxPages := 65536
  isLinked := true
  omitted := []
  trapping := []
  refusesRewind := false

variable (b : ControlBlock) (w : UInt32)

theorem mem_showing {i : Instruction} (hi : i ∈ (showing w).code) :
    i = .await (.reset (.literal 0) (.literal 0)) (Fin.last 15) ∨
      i = .call (.put (.literal 4294967295) (.literal w) (.literal 1)) none := by
  simpa only [showing, List.mem_toArray, List.mem_cons, List.not_mem_nil, or_false] using hi

theorem blind_showing : (showing w).Blind b where
  code i hi := by
    rcases mem_showing w hi with rfl | rfl <;> rfl
  start i hi := absurd hi List.not_mem_nil
  trapping := rfl
  comesBack := rfl

theorem clockless_showing : (showing w).engine.Clockless := by
  refine engine_clockless (fun i hi => ?_) fun i hi => absurd hi List.not_mem_nil
  rcases mem_showing w hi with rfl | rfl <;> rfl

/-- The program is discreet if the byte that it prints is outside the control words. -/
theorem discreet_showing (hw : w.toNat + 1 ≤ b.start) (same : State → State → Prop) :
    (showing w).engine.guest.Discreet b same := by
  refine discreet (fun i hi => ?_) same
  rcases mem_showing w hi with rfl | rfl
  · rfl
  · exact Bool.or_eq_true_iff.mpr (Or.inl (decide_eq_true hw))

end Program

/-! ## Its session -/

namespace Session
open Program

variable {w : UInt32} {h : Host State} {s t : Session State}

/-- The step that opens. -/
theorem move_of_start (hguest : h.guest = (showing w).guest) (hcounter : s.guest.counter = 0) :
    h.guest.step s.guest s.memory =
      ⟨{ s.guest with pending := .await (Fin.last 15) }, s.memory, .call (.reset 0 0)⟩ := by
  rw [hguest]
  change (showing w).step s.guest s.memory = _
  rw [(blind_showing h.control w).step_eq, hcounter]
  rfl

/-- The step that prints. -/
theorem move_of_second (hguest : h.guest = (showing w).guest) (hcounter : s.guest.counter = 1) :
    h.guest.step s.guest s.memory =
      ⟨{ s.guest with pending := .call none }, s.memory, .call (.put (-1) w.toInt32 1)⟩ := by
  rw [hguest]
  change (showing w).step s.guest s.memory = _
  rw [(blind_showing h.control w).step_eq, hcounter]
  rfl

/-- The step that leaves. -/
theorem move_of_third (hguest : h.guest = (showing w).guest) (hcounter : s.guest.counter = 2) :
    h.guest.step s.guest s.memory = ⟨s.guest, s.memory, .leave⟩ := by
  rw [hguest]
  change (showing w).step s.guest s.memory = _
  rw [(blind_showing h.control w).step_eq, hcounter]
  rfl

/-- The end of the program. -/
theorem leads_to_end (hguest : h.guest = (showing w).guest) (hcounter : s.guest.counter = 2)
    (hphase : s.suspension.phase = .running) (hpending : s.suspension.pending = none) (n : Nat) :
    history h (n + 2) .guest s = [] ∧ ∃ s', runTurns h (n + 2) .guest s = .ok () s' ∧ s'.desk = s.desk := by
  have hleaves := leads_of_perform h s (n + 1)
  rw [called, perform_eq, move_of_third hguest hcounter] at hleaves
  let left := s.stepped h.guest.step
  have hends : takeTurn h .host left = .ok none left := takeTurn_of_running hphase
  have hnothing : history h (n + 1) .host left = [] := by
    have hpending' : left.suspension.pending = none := hpending
    rw [history, happenings, hends, supplied, hpending']
    rfl
  refine ⟨?_, left, ?_, rfl⟩
  · rw [hleaves.1, historyAfter, hnothing]
    rfl
  · rw [hleaves.2, runAfter, runTurns_succ, hends]

/-- What is left once the file is open: the byte is printed, and the program ends. -/
theorem leads_to_print (hguest : h.guest = (showing w).guest) (hcounter : s.guest.counter = 1)
    (hphase : s.suspension.phase = .running) (hpending : s.suspension.pending = none) {value : UInt8}
    (hvalue : s.memory.bytes.data[w.toNat]? = some value) (n : Nat) :
    fetched (history h (n + 3) .guest s) = [] ∧
      ∃ s', runTurns h (n + 3) .guest s = .ok () s' ∧ s'.desk = s.desk.print (oneByte value) := by
  have hread : s.memory.read (Memory.address w.toInt32) (Memory.address 1) = .ok (oneByte value) :=
    Memory.read_one hvalue
  have hmove := move_of_second hguest hcounter
  let asking : State := { s.guest with pending := .call none }
  let printed : Session State := { s with guest := asking, desk := s.desk.print (oneByte value) }
  have hstepped : s.stepped h.guest.step = { s with guest := asking } := by
    rw [stepped, hmove]
  have hserve : serve h (.put (-1) w.toInt32 1) (s.stepped h.guest.step) = .ok none printed := by
    rw [serve, Serving.get_bind, hstepped]
    simp only [bind, EStateM.bind, Serving.onDesk, Desk.put, hread]
    rfl
  let printing : Session State := { printed with guest := asking.next }
  have hgoOn : answered h (.ok none printed) = .ok .guest printing := by
    rw [answered, hguest]
    rfl
  have hprints := leads_of_completed (t := printed) (congrArg Action.move hmove) hserve rfl (n + 2)
  rw [hgoOn] at hprints
  have hcounter' : printing.guest.counter = 2 := by
    change s.guest.counter + 1 = 2
    rw [hcounter]
    rfl
  obtain ⟨hhistory, s', hrun, hdesk⟩ := leads_to_end (s := printing) hguest hcounter' hphase hpending n
  refine ⟨?_, s', ?_, hdesk⟩
  · rw [hprints.1, historyAfter, hhistory]
    rfl
  · rw [hprints.2, runAfter, hrun]

/-- What is left once the open has given a handle. -/
theorem leads_from_open (hguest : h.guest = (showing w).guest) (hcounter : s.guest.counter = 0)
    (hawaits : s.guest.pending = .await (Fin.last 15)) (hmode : s.guest.mode = running)
    (hphase : s.suspension.phase = .running) (hpending : s.suspension.pending = none) {value : UInt8}
    (hvalue : s.memory.bytes.data[w.toNat]? = some value) (result : Option Int32) (n : Nat) :
    fetched (historyAfter h (n + 3) (answered h (.ok result s))) = [] ∧
      ∃ s', runAfter h (n + 3) (answered h (.ok result s)) = .ok () s' ∧
        s'.desk = s.desk.print (oneByte value) := by
  let opened : Session State := { s with guest := (s.guest.setRegister (Fin.last 15) (result.getD 0).toUInt32).next }
  have hresume : h.guest.resume s.guest result = .goOn opened.guest := by
    rw [hguest]
    change resume s.guest result = _
    simp only [resume, hawaits, hmode]
    rfl
  have hcounter' : opened.guest.counter = 1 := by
    change s.guest.counter + 1 = 1
    rw [hcounter]
    rfl
  rw [answered, hresume]
  exact leads_to_print (s := opened) hguest hcounter' hphase hpending hvalue n

/-! ## Two runs of it -/

/-- The file without a name is no font metric, so what is opened is what is stored. -/
theorem openRaw_of_unnamed {d : Desk} {content : ByteArray} (hstored : d.contents[""]? = some content)
    (resuming : Bool) :
    d.openRaw .empty .read resuming = d.push (.regular (.opened "" .read content)) := by
  have hmetric : d.metric "" .read = none := rfl
  change d.open "" .read resuming = _
  rw [Desk.open, hmetric, hstored]

/-- The run with the file on the desk: the guest is not suspended, and shows what its memory
holds. -/
theorem shows_of_stored (hguest : h.guest = (showing w).guest) (hcounter : s.guest.counter = 0)
    (hmode : s.guest.mode = running) (hruns : Runs h s) {content : ByteArray}
    (hstored : s.desk.contents[""]? = some content) {value : UInt8}
    (hvalue : s.memory.bytes.data[w.toNat]? = some value) {budget : Nat} (hbudget : 4 ≤ budget) :
    fetched (history h budget .guest s) = [] ∧
      ∃ s', runTurns h budget .guest s = .ok () s' ∧
        s'.desk = (s.desk.push (.regular (.opened "" .read content))).2.print (oneByte value) := by
  obtain ⟨n, rfl⟩ := Nat.exists_eq_add_of_le' hbudget
  have hmove := move_of_start hguest hcounter
  let asking : State := { s.guest with pending := .await (Fin.last 15) }
  have hstepped : s.stepped h.guest.step = { s with guest := asking } := by
    rw [stepped, hmove]
  let opened : Session State :=
    { s with guest := asking, desk := (s.desk.push (.regular (.opened "" .read content))).2 }
  let handle : Int32 := Int32.ofNat s.desk.table.size
  have hopen : openNamed h .read 0 0 (s.stepped h.guest.step) = .ok handle opened := by
    rw [hstepped]
    exact openNamed_of_opened (by simp [hruns.running]) s.memory.read_nothing (openRaw_of_unnamed hstored false)
  have hserve : serve h (.reset 0 0) (s.stepped h.guest.step) = .ok (some handle) opened :=
    map_of_ok hopen some
  have hleads := leads_of_completed (congrArg Action.move hmove) hserve rfl (n + 3)
  obtain ⟨hhistory, s', hrun, hdesk⟩ := leads_from_open (s := opened) hguest hcounter rfl hmode hruns.running
    hruns.pending hvalue (some handle) n
  refine ⟨?_, s', hleads.2.trans hrun, hdesk⟩
  rw [hleads.1, fetched, List.filterMap_append]
  exact hhistory

/-- The run that has to fetch the file: the guest is suspended for it, and shows what its
memory holds after that. -/
theorem shows_of_missed (hguest : h.guest = (showing w).guest) (hcounter : s.guest.counter = 0)
    (hmode : s.guest.mode = running) (hruns : Runs h s) (hcan : ∀ e, h.canCall (h.guest.callsOn e))
    (hunknown : ¬ s.desk.Knows "") {content : ByteArray} (hcontent : h.loader.content? "" = some content)
    {m : Memory} (hprepare : h.control.prepare s.memory = .ok () m) {value : UInt8}
    (hvalue : m.bytes.data[w.toNat]? = some value) {budget : Nat} (hbudget : 6 ≤ budget) :
    fetched (history h budget .guest s) = [("", content)] ∧
      ∃ s', runTurns h budget .guest s = .ok () s' ∧
        s'.desk = ((s.desk.insert "" content).push (.regular (.opened "" .read content))).2.print (oneByte value) := by
  obtain ⟨n, rfl⟩ := Nat.exists_eq_add_of_le' hbudget
  have hmove := move_of_start hguest hcounter
  have hmissing : Missing h s 0 0 .empty "" :=
    { move := congrArg Action.move hmove
      read := by
        rw [stepped, hmove]
        exact s.memory.read_nothing
      fetch := Desk.open_of_not_knows hunknown
      unknown := hunknown }
  have hresumable : h.guest.Resumable h.control Same := by
    rw [hguest]
    exact (blind_showing h.control w).resumable.guest
  obtain ⟨handle, away, rewound, t, hcycle⟩ := hmissing.cycle hresumable (fun {m'} _ => m'.read_nothing)
    ⟨rfl, rfl, rfl, hmode, hmode⟩ hruns hcan
  have hsame := hcycle.reopened.guest
  rw [stepped, hmove] at hsame
  -- once it is back the guest finds the control words as the suspension has written them
  have hmemory : t.memory = m := by
    have hcall := hcycle.again
    have hprepared := hcycle.prepared
    have hstart : (s.stepped h.guest.step).memory = s.memory := by rw [stepped, hmove]
    rw [hstart, hprepare] at hprepared
    cases hprepared
    rw [hguest] at hcall
    rw [hcycle.memory, hguest]
    exact memory_of_call hcall
  have hdesk' : t.desk = ((s.desk.insert "" content).push (.regular (.opened "" .read content))).2 := by
    have hopened := hcycle.reopened.opened
    have hstocked : stocked h "" s.desk = s.desk.insert "" content := by rw [stocked, hcontent]
    have hstored : (s.desk.insert "" content).contents[""]? = some content := Std.HashMap.getElem?_insert_self
    rw [hstocked, openRaw_of_unnamed hstored true] at hopened
    exact (congrArg Prod.snd hopened).symm
  obtain ⟨hhistory, s', hrun, hdesk⟩ := leads_from_open (s := t) hguest (hsame.counter.symm.trans hcounter)
    hsame.pending.symm hsame.second hcycle.reopened.running hcycle.reopened.pending (hmemory ▸ hvalue)
    (some (Int32.ofNat handle)) n
  refine ⟨?_, s', (hcycle.runTurns_eq (n + 3)).trans hrun, hdesk.trans (by rw [hdesk'])⟩
  rw [hcycle.history_eq (n + 3), hcontent]
  exact congrArg (("", content) :: ·) hhistory

end Session

/-! ## Bytes of a fresh memory -/

theorem Session.getElem?_seeded {size i : Nat} (hi : i < size) : (seeded size .empty).bytes.data[i]? = some 0 := by
  have hseeded : (seeded size .empty).bytes = zeros size := by
    have hempty : ByteArray.empty.extract 0 size = .empty := by simp
    simp only [seeded, hempty]
    simp
  rw [hseeded]
  exact getElem?_zeros hi

namespace Typesetter
open Session Program

/-! ## Typesetting with it -/

/-- A compressed file that is empty. -/
def emptyMember : ByteArray :=
  [0x1F, 0x8B, 8, 0, 0, 0, 0, 0, 0, 0xFF, 1, 0, 0, 0xFF, 0xFF, 0, 0, 0, 0, 0, 0, 0, 0].toByteArray

/-- The program as an engine, in a standard setting, with a store in which every file is there
and empty. -/
def showing (w : UInt32) : Typesetter State where
  config := .standard
  engine := (Program.showing w).engine
  image := .empty
  loader := { store := fun _ => .ok emptyMember, layout := .standard }
  fonts := .empty
  clock := .fixed

/-- A request that asks for nothing. -/
def blank : Request := { source := "", options := .plain }

set_option maxRecDepth 10000 in
theorem content_showing (w : UInt32) : (showing w).loader.content? "" = some .empty := by
  rfl

/-- The desk that is set out. -/
def blankDesk : Desk :=
  (Desk.start Config.standard.script.toUTF8 .empty).insert Config.standard.inputFile blank.document.toUTF8

/-- The session in which the main function is entered. -/
def atMain (desk : Desk) : Session State :=
  { guest := .initial, memory := seeded (Config.standard.memoryPages * Config.pageSize) .empty, desk,
    suspension := .initial, asked := #[] }

theorem setOut_showing (w : UInt32) : (showing w).setOut blank #[] = .ok blankDesk #[] := rfl

theorem start_showing (w : UInt32) (desk : Desk) :
    Session.start (showing w).host (showing w).engine (showing w).config.memoryPages (showing w).image desk #[] =
      (.ok (), atMain desk) := by
  rfl

theorem hasStack_standard : Config.hasStack .standard = true := by decide +kernel

theorem hasStack_showing (w : UInt32) : (showing w).host.hasStack = true := hasStack_standard

theorem canCall_showing (w : UInt32) (e : Export) :
    (showing w).host.canCall ((showing w).host.guest.callsOn e) = true := by
  rw [Host.canCall, hasStack_showing]
  rfl

theorem enter_showing (w : UInt32) (s : Session State) : Serving.enter (showing w).host .main s = .ok () s :=
  Serving.enter_eq_ok s (canCall_showing w _) rfl

theorem setupHistory_showing (w : UInt32) (desk : Desk) :
    setupHistory (showing w).host (showing w).engine (showing w).config.memoryPages (showing w).image desk #[] =
      [] := by
  rfl

theorem historyAt_showing (w : UInt32) (desk : Desk) :
    (showing w).historyAt desk #[] = history (showing w).host (showing w).budget .guest (atMain desk) := by
  rw [historyAt_of_start (start_showing w desk), setupHistory_showing, List.nil_append, runHistory, enter_showing]

/-- What the console shows of a byte that is printed. -/
def shownByte (value : UInt8) : Array String := (Console.empty.write (Text.latin1List [value])).flush.transcript

/-- The desk on which the file without a name is stored and opened, after a byte was printed. -/
def shownDesk (value : UInt8) : Desk :=
  ((blankDesk.insert "" .empty).push (.regular (.opened "" .read .empty))).2.print (oneByte value)

/-- The page description is never written. -/
theorem readBack_shownDesk (value : UInt8) (name : String) : (shownDesk value).readBack name = none := by
  have htable : (shownDesk value).table = #[.regular (.opened "" .read .empty)] := rfl
  simp [Desk.readBack, Desk.latest, htable, RegularFile.opened]

/-- The result holds what was printed. -/
theorem typesetAt_showing (w : UInt32) {desk : Desk} {value : UInt8} {s : Session State}
    (hrun : runTurns (showing w).host (showing w).budget .guest (atMain desk) = .ok () s)
    (hdesk : s.desk = shownDesk value) :
    ((showing w).typesetAt blank desk #[]).1 = .error (.noOutput (shownByte value)) := by
  have htranscript : s.desk.console.flush.transcript = shownByte value := by
    rw [hdesk]
    rfl
  have hrun' : Session.run (showing w).host (showing w).budget (atMain desk) = .ok () s := by
    rw [run_eq, enter_showing]
    exact hrun
  rw [typesetAt_of_run (start_showing w _) hrun', outcome, hdesk, readBack_shownDesk, ← hdesk, htranscript]

theorem budget_showing (w : UInt32) : (showing w).budget = unlimited := by
  have hfuel : (showing w).config.fuelLimit = none := rfl
  rw [budget, hfuel, Option.getD_none]

/-- The program ends long before a budget does. -/
theorem le_unlimited : 6 ≤ unlimited :=
  Nat.le_trans (by decide : 6 ≤ 2 ^ 3) (Nat.pow_le_pow_right (by decide) (by decide : 3 ≤ 62))

theorem not_knows_blankDesk : ¬ blankDesk.Knows "" := by
  have hstored : blankDesk.contents[""]? = none := by
    rw [blankDesk, Desk.insert, Std.HashMap.getElem?_insert, if_neg (by decide)]
    exact Std.HashMap.getElem?_empty
  rintro (hmetric | hcontent | ⟨mode, htag⟩ | hscratch)
  · cases hmetric
  · rw [hstored] at hcontent
    cases hcontent
  · have htags : blankDesk.tags = #[] := Array.map_empty
    rw [htags] at htag
    cases Array.not_mem_empty _ htag
  · cases hscratch

theorem runs_showing (w : UInt32) (desk : Desk) : Runs (showing w).host (atMain desk) where
  running := rfl
  pending := rfl
  room := by
    have hsize : (atMain desk).memory.size = Config.standard.memoryPages * Config.pageSize := size_seeded ..
    rw [hsize]
    exact room_of_check (c := .standard) rfl

/-- Typesetting that has to fetch the file shows the byte as the suspension has left it. -/
theorem typeset_showing (w : UInt32) {m : Memory} {value : UInt8}
    (hprepare : (ControlBlock.ofConfig .standard).prepare (atMain blankDesk).memory = .ok () m)
    (hvalue : m.bytes.data[w.toNat]? = some value) :
    fetched ((showing w).historyWith [] blank) = [("", .empty)] ∧
      ((showing w).typeset blank).1 = .error (.noOutput (shownByte value)) := by
  obtain ⟨hfetched, s, hrun, hdesk⟩ := shows_of_missed (s := atMain blankDesk) (h := (showing w).host) rfl rfl rfl
    (runs_showing w blankDesk) (canCall_showing w) not_knows_blankDesk (content_showing w) hprepare hvalue
    (budget_showing w ▸ le_unlimited)
  rw [← typesetWith_nil, typesetWith_of_setOut (setOut_showing w), historyWith_of_setOut (setOut_showing w),
    Desk.insertAll_nil]
  have htypeset := typesetAt_showing w hrun hdesk
  rw [← historyAt_showing] at hfetched
  exact ⟨hfetched, htypeset⟩

/-- Typesetting with the file on the desk shows the byte as it was from the start. -/
theorem typesetWith_showing (w : UInt32) (hw : w.toNat < Config.standard.memoryPages * Config.pageSize) :
    ((showing w).typesetWith [("", .empty)] blank).1 = .error (.noOutput (shownByte 0)) := by
  have hstored : (blankDesk.insert "" .empty).contents[""]? = some .empty := Std.HashMap.getElem?_insert_self
  obtain ⟨-, s, hrun, hdesk⟩ := shows_of_stored (s := atMain (blankDesk.insert "" .empty)) (h := (showing w).host) rfl
    rfl rfl (runs_showing w _) hstored (getElem?_seeded hw) (budget_showing w ▸ Nat.le_trans (by decide) le_unlimited)
  rw [typesetWith_of_setOut (setOut_showing w)]
  exact typesetAt_showing w hrun hdesk

/-- Where the control words are in the standard setting. -/
theorem start_standard : (ControlBlock.ofConfig .standard).start = 65536000 := by
  decide

/-- **Suspension shows in control words that are handed over.**  The guest can be suspended and
does not ask for the time; it computes from no control word and writes none, but prints one.
With the file that it fetches on the desk from the start it prints another byte. -/
theorem suspension_shows :
    Config.standard.check = .ok () ∧
      (showing 65536000).engine.Resumable (showing 65536000).host.control Same ∧
      (showing 65536000).engine.Clockless ∧
      fetched ((showing 65536000).historyWith [] blank) = [("", .empty)] ∧
      ((showing 65536000).typeset blank).1 = .error (.noOutput #["\x08"]) ∧
      ((showing 65536000).typesetWith [("", .empty)] blank).1 = .error (.noOutput #["\x00"]) ∧
      ¬ Transparent ((showing 65536000).historyWith [] blank) ((showing 65536000).historyWith [("", .empty)] blank)
        ((showing 65536000).typeset blank).1 ((showing 65536000).typesetWith [("", .empty)] blank).1 := by
  have hroom : (ControlBlock.ofConfig .standard).start + 8 ≤ (atMain blankDesk).memory.size :=
    (runs_showing 0 blankDesk).room
  obtain ⟨m, hprepare, -⟩ := ControlBlock.prepare_eq_ok hroom
  have hvalue := ControlBlock.getElem?_of_prepare hroom hprepare
  rw [start_standard] at hvalue
  obtain ⟨hfetched, hsuspended⟩ := typeset_showing 65536000 hprepare hvalue
  have hstored := typesetWith_showing 65536000 (by decide)
  refine ⟨rfl, (blind_showing _ _).resumable, clockless_showing _, hfetched, hsuspended, hstored, ?_⟩
  intro htransparent
  rw [hsuspended, hstored] at htransparent
  obtain ⟨-, hsame⟩ := htransparent.ended nofun
  have hlines : shownByte 8 = shownByte 0 := TypesetError.noOutput.inj (Except.error.inj hsame)
  exact absurd hlines (by decide)

/-- The byte at the address 0 is the same after a suspension. -/
theorem suspension_transparent_below :
    Config.standard.check = .ok () ∧ fetched ((showing 0).historyWith [] blank) = [("", .empty)] ∧
      Transparent ((showing 0).historyWith [] blank)
        (((showing 0).withClock ⟨0, 1, 1, 2000⟩).historyWith (fetched ((showing 0).historyWith [] blank)) blank)
        ((showing 0).typeset blank).1
        (((showing 0).withClock ⟨0, 1, 1, 2000⟩).typesetWith (fetched ((showing 0).historyWith [] blank)) blank).1 := by
  have hroom : (ControlBlock.ofConfig .standard).start + 8 ≤ (atMain blankDesk).memory.size :=
    (runs_showing 0 blankDesk).room
  obtain ⟨m, hprepare, halike⟩ := ControlBlock.prepare_eq_ok hroom
  have hvalue : m.bytes.data[(0 : UInt32).toNat]? = some 0 := by
    rw [← halike.byte _ (by decide)]
    exact getElem?_seeded (by decide)
  exact ⟨rfl, (typeset_showing 0 hprepare hvalue).1, suspension_transparent rfl (blind_showing _ _).resumable
    (discreet_showing _ _ (by decide) Same) (clockless_showing _) ⟨0, 1, 1, 2000⟩ blank⟩

end Typesetter
end Galley
