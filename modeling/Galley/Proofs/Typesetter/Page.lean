import Galley.Proofs.Session.Output
import Galley.Proofs.Session.Reciting
import Galley.Proofs.Typesetter.Dialogue
import Galley.Proofs.Typesetter.Showing

/-! # The page description is what was written

The page description is read back from the files that the engine leaves.  If the guest does
not move a cursor by a `get` through the handle of its last rewrite of the output file, it is
exactly what was written through that handle (`Typesetter.page_eq_output`): neither what
fills the buffer behind the cursor nor what was stored under the name shows, nor do writes
through other handles, older ones of the same name among them. -/
namespace Galley

variable {σ : Type}

namespace Typesetter
open Exchange

variable {t : Typesetter σ} {r : Request}

/-- A run that ended by itself gives no error of a run that was stopped. -/
theorem outcome_ne_failure (t : Typesetter σ) (s : Session σ) (cause : Stop) (transcript transcript' : Array String) :
    t.outcome s transcript ≠ .error (failure cause transcript') := by
  intro h
  rw [outcome] at h
  split at h
  · split at h
    · cases cause <;> cases h
    · cases h
  · cases cause <;> cases h

/-- **The page description is what was written** through the handle of the last rewrite of the
output file, for every run that is not stopped; there is no output exactly if there is no
such handle or nothing was written through it.  The handle is the one that the rewrite has
returned. -/
theorem page_eq_output {l : List Exchange} (hdialogue : t.dialogue? r = some l)
    (hwrites : OnlyWrites t.config.outputFile l)
    (hends : ∀ cause transcript, (t.typeset r).1 ≠ .error (failure cause transcript)) :
    (∀ x ∈ l, x.rewrites? = some t.config.outputFile → x.result = some (Int32.ofNat x.place)) ∧
      match (output t.config.outputFile l).filter (! ·.isEmpty) with
      | some page => ∃ p, (t.typeset r).1 = .ok p ∧ p.page = page
      | none => ∃ transcript, (t.typeset r).1 = .error (.noOutput transcript) := by
  have htypeset := (Session.carried_filed t.config.outputFile).typeset t r (.start ..)
  simp only [hdialogue] at htypeset
  rcases htypeset with ⟨s, hfiled, hresult⟩ | ⟨cause, d, -, hresult⟩
  · refine ⟨hfiled.returned, ?_⟩
    rw [← hfiled.readBack_eq_output hwrites, hresult, outcome]
    cases s.desk.readBack t.config.outputFile with
    | none => exact ⟨_, rfl⟩
    | some page =>
      by_cases hempty : page.isEmpty = true
      · simp only [hempty, if_true]
        rw [Option.filter_some_neg (by simpa using hempty)]
        exact ⟨_, rfl⟩
      · simp only [hempty]
        rw [Option.filter_some_pos (by simpa using hempty)]
        exact ⟨_, rfl, rfl⟩
  · exact absurd hresult (hends cause _)

end Typesetter

/-! ## A run that opens the output file twice -/

namespace Typesetter
open Session Exchange

/-- The name of the output file in a standard setting. -/
def outputName : ByteArray := [0x69, 0x6E, 0x70, 0x75, 0x74, 0x2E, 0x64, 0x76, 0x69].toByteArray

/-- Opens the output file twice, and prints a letter through each of the handles. -/
def twice : List (Call Int32) := [.rewrite 9 0, .rewrite 9 0, .printChar 0 65, .printChar 1 66]

/-- Typesetting by this guest, with the name of the output file in front of its memory. -/
def recitingTwice : Typesetter (List (Call Int32)) where
  config := .standard
  engine := .reciting twice
  image := outputName
  loader := { store := fun _ => .ok emptyMember, layout := .standard }
  fonts := .empty
  clock := .fixed

/-- The output file when it is opened. -/
def emptyOutput : RegularFile := .opened "input.dvi" .write .empty

/-- The desk with the document of a request on it, and nothing else. -/
def documentDesk (r : Request) : Desk :=
  (Desk.start Config.standard.script.toUTF8 .empty).insert Config.standard.inputFile r.document.toUTF8

theorem fresh_documentDesk (r : Request) : (documentDesk r).contents["input.dvi"]? = none := by
  rw [documentDesk, Desk.insert, Std.HashMap.getElem?_insert, if_neg (by decide)]
  exact Std.HashMap.getElem?_empty

theorem openRaw_outputName {d : Desk} (hstored : d.contents["input.dvi"]? = none) :
    d.openRaw outputName .write false = d.push (.regular emptyOutput) := by
  have hparse : FileName.parse outputName.data.toList = .file "input.dvi" := by decide
  simp only [Desk.openRaw, hparse]
  exact Desk.open_write_of_fresh hstored false

theorem read_seeded {size : Nat} {image : ByteArray} (h : image.size ≤ size) :
    (seeded size image).read 0 image.size = .ok image := by
  have hwhole : image.extract 0 size = image := by
    refine ByteArray.ext ?_
    rw [ByteArray.data_extract, Array.extract_eq_self_of_le h]
  have hcovers : (seeded size image).covers 0 image.size = true := by
    rw [Memory.covers, Memory.size, seeded, hwhole, ByteArray.size_append]
    simp
  rw [Memory.read, if_pos hcovers, slice, Nat.zero_add, seeded, hwhole, ByteArray.extract_append_eq_left rfl]

section Serving
variable {h : Host σ} {s : Session σ}

/-- The output file is opened. -/
theorem serve_rewrite (hphase : s.suspension.phase = .running)
    (hread : s.memory.read (Memory.address 0) (Memory.address 9) = .ok outputName)
    (hstored : s.desk.contents["input.dvi"]? = none) :
    serve h (.rewrite 9 0) s = .ok (some (Int32.ofNat s.desk.table.size))
      { s with desk := (s.desk.push (.regular emptyOutput)).2 } :=
  map_of_ok (openNamed_of_opened (by simp [hphase]) hread (openRaw_outputName hstored)) some

/-- A letter is printed. -/
theorem serve_printChar {handle char : Int32} {d : Desk}
    (hwrite : s.desk.write handle (oneByte char.toUInt32.toUInt8) = .ok d) :
    serve h (.printChar handle char) s = .ok none { s with desk := d } := by
  have hprint : print handle (oneByte char.toUInt32.toUInt8) s = .ok () { s with desk := d } := by
    simp only [print, Serving.onDesk, hwrite]
  rw [serve, bind_of_ok hprint]
  rfl

end Serving

/-! ## Its run -/

/-- The memory with the name in front. -/
def namedMemory : Memory := seeded (Config.standard.memoryPages * Config.pageSize) outputName

/-- The session with the name in front of its memory, before the guest goes on. -/
def before (guest : σ) (d : Desk) : Session σ :=
  { guest, memory := namedMemory, desk := d, suspension := .initial, asked := #[] }

/-- The desk when the output file was opened once, and twice. -/
def openedOnce : Desk := (blankDesk.push (.regular emptyOutput)).2
def openedTwice : Desk := (openedOnce.push (.regular emptyOutput)).2

/-- The second rewrite. -/
def reopening : Exchange := ⟨.rewrite 9 0, openedOnce, namedMemory, some 1⟩

/-- The dialogue; `d` is the desk that the first letter leaves. -/
def twiceDialogue (d : Desk) : List Exchange :=
  [⟨.rewrite 9 0, blankDesk, namedMemory, some 0⟩, reopening, ⟨.printChar 0 65, openedTwice, namedMemory, none⟩,
    ⟨.printChar 1 66, d, namedMemory, none⟩]

theorem read_namedMemory : namedMemory.read (Memory.address 0) (Memory.address 9) = .ok outputName :=
  read_seeded (show outputName.size ≤ Config.standard.memoryPages * Config.pageSize by decide)

section Run
variable {h : Host (List (Call Int32))}

theorem recites_rewrite (hguest : h.guest = .reciting) (calls : List (Call Int32)) {d : Desk}
    (hstored : d.contents["input.dvi"]? = none) (n : Nat) :
    dialogue h (n + 1) .guest (before (.rewrite 9 0 :: calls) d) =
        ⟨.rewrite 9 0, d, namedMemory, some (Int32.ofNat d.table.size)⟩ ::
          dialogue h n .guest (before calls (d.push (.regular emptyOutput)).2) ∧
      runTurns h (n + 1) .guest (before (.rewrite 9 0 :: calls) d) =
        runTurns h n .guest (before calls (d.push (.regular emptyOutput)).2) :=
  recites hguest rfl (serve_rewrite rfl read_namedMemory hstored) n

theorem recites_printChar (hguest : h.guest = .reciting) (handle char : Int32) (calls : List (Call Int32)) {d d' : Desk}
    (hwrite : d.write handle (oneByte char.toUInt32.toUInt8) = .ok d') (n : Nat) :
    dialogue h (n + 1) .guest (before (.printChar handle char :: calls) d) =
        ⟨.printChar handle char, d, namedMemory, none⟩ :: dialogue h n .guest (before calls d') ∧
      runTurns h (n + 1) .guest (before (.printChar handle char :: calls) d) = runTurns h n .guest (before calls d') :=
  recites hguest rfl (serve_printChar hwrite) n

/-- A letter is written to the output file that was just opened. -/
theorem write_letter (d : Desk) (handle : Int32) (hhandle : ¬ handle < 0)
    (hfile : d.file handle = .ok (.regular emptyOutput)) (b : UInt8) :
    ∃ f : RegularFile, f.Holds "input.dvi" (oneByte b) ∧
      d.write handle (oneByte b) = .ok (d.setFile handle (.regular f)) := by
  have hroom : 2 * (ByteArray.empty.size + (oneByte b).size) ≤ RegularFile.maxCapacity := by
    rw [size_oneByte]
    decide
  obtain ⟨f, hwrite, hf⟩ := (RegularFile.holds_opened "input.dvi").exists_write (oneByte b) hroom
  rw [ByteArray.empty_append] at hf
  exact ⟨f, hf, by simp only [Desk.write, if_neg hhandle, hfile, emptyOutput, hwrite]⟩

theorem recites_twice (hguest : h.guest = .reciting) (n : Nat) :
    ∃ d s, dialogue h (n + 6) .guest (before twice blankDesk) = twiceDialogue d ∧
      runTurns h (n + 6) .guest (before twice blankDesk) = .ok () s := by
  obtain ⟨f, -, hfirst⟩ := write_letter openedTwice 0 (by decide) rfl 65
  obtain ⟨f', -, hsecond⟩ := write_letter (openedTwice.setFile 0 (.regular f)) 1 (by decide) rfl 66
  have hopen := recites_rewrite hguest twice.tail (fresh_documentDesk blank) (n + 5)
  have hopen' := recites_rewrite (d := openedOnce) hguest twice.tail.tail (fresh_documentDesk blank) (n + 4)
  have hprint := recites_printChar hguest 0 65 [.printChar 1 66] hfirst (n + 3)
  have hprint' := recites_printChar hguest 1 66 [] hsecond (n + 2)
  have hleaves := recites_nothing
    (s := before [] ((openedTwice.setFile 0 (.regular f)).setFile 1 (.regular f'))) hguest rfl rfl n
  refine ⟨openedTwice.setFile 0 (.regular f), _, ?_,
    hopen.2.trans (hopen'.2.trans (hprint.2.trans (hprint'.2.trans hleaves.2)))⟩
  rw [hleaves.1] at hprint'
  refine hopen.1.trans (congrArg (_ :: ·) (hopen'.1.trans (congrArg (_ :: ·) ?_)))
  exact hprint.1.trans (congrArg (_ :: ·) hprint'.1)

end Run

/-- The last rewrite is the second one, and the second letter is written through its handle. -/
theorem output_twiceDialogue (d : Desk) :
    OnlyWrites "input.dvi" (twiceDialogue d) ∧ output "input.dvi" (twiceDialogue d) = some (oneByte 66) := by
  have hparse : FileName.parse outputName.data.toList = .file "input.dvi" := by decide
  have hrewrites : reopening.rewrites? = some "input.dvi" := rewrites_of_opens rfl read_namedMemory hparse
  have hlast : lastRewrite "input.dvi" (twiceDialogue d) = some reopening := by
    change lastRewrite "input.dvi" ((([_] ++ [reopening]) ++ [_]) ++ [_]) = _
    rw [lastRewrite_of_other (by nofun), lastRewrite_of_other (by nofun)]
    exact lastRewrite_of_rewrites hrewrites
  refine ⟨fun x hx y hy => ?_, ?_⟩
  · simp only [twiceDialogue, List.mem_cons, List.not_mem_nil, or_false] at hy
    rcases hy with rfl | rfl | rfl | rfl <;> rfl
  · rw [output, hlast]
    rfl

/-- The run comes to its end. -/
theorem typeset_recitingTwice :
    ∃ d s transcript, recitingTwice.dialogue? blank = some (twiceDialogue d) ∧
      (recitingTwice.typeset blank).1 = recitingTwice.outcome s transcript := by
  obtain ⟨n, hn⟩ := Nat.exists_eq_add_of_le' le_unlimited
  have hbudget : recitingTwice.budget = n + 6 := hn
  obtain ⟨d, s, hdialogue, hrun⟩ := recites_twice (h := recitingTwice.host) rfl n
  have hsetOut : recitingTwice.setOut blank #[] = .ok blankDesk #[] := rfl
  have hstart : Session.start recitingTwice.host recitingTwice.engine recitingTwice.config.memoryPages
      recitingTwice.image blankDesk #[] = (.ok (), before twice blankDesk) := rfl
  have hcan : recitingTwice.host.canCall (recitingTwice.host.guest.callsOn .main) = true :=
    Bool.or_eq_true_iff.mpr (Or.inr rfl)
  have henter : Serving.enter recitingTwice.host .main (before twice blankDesk) = .ok () (before twice blankDesk) :=
    Serving.enter_eq_ok _ hcan rfl
  refine ⟨d, s, s.desk.console.flush.transcript, ?_, ?_⟩
  · have hsetup : setupDialogue recitingTwice.host recitingTwice.engine recitingTwice.config.memoryPages
        recitingTwice.image blankDesk #[] = [] := rfl
    rw [dialogue?, hsetOut]
    dsimp only
    rw [hstart]
    dsimp only
    rw [hsetup, runDialogue, henter, List.nil_append]
    dsimp only
    rw [hbudget, hdialogue]
  · have hwhole : Session.run recitingTwice.host recitingTwice.budget (before twice blankDesk) = .ok () s := by
      rw [run_eq, henter]
      dsimp only
      rw [hbudget, hrun]
    rw [← typesetWith_nil, typesetWith_of_setOut hsetOut, Desk.insertAll_nil, typesetAt_of_run hstart hwhole]

/-- The page description is the second letter; the first one went through the older handle. -/
theorem page_eq_output_twice :
    ∃ l, recitingTwice.dialogue? blank = some l ∧ OnlyWrites "input.dvi" l ∧
      (∀ cause transcript, (recitingTwice.typeset blank).1 ≠ .error (failure cause transcript)) ∧
      ∃ p, (recitingTwice.typeset blank).1 = .ok p ∧ p.page = oneByte 66 := by
  obtain ⟨d, s, transcript, hdialogue, hresult⟩ := typeset_recitingTwice
  obtain ⟨hwrites, houtput⟩ := output_twiceDialogue d
  have hends (cause : Stop) (transcript' : Array String) :
      (recitingTwice.typeset blank).1 ≠ .error (failure cause transcript') := by
    rw [hresult]
    exact outcome_ne_failure _ _ _ _ _
  have hpage := (page_eq_output hdialogue hwrites hends).2
  have hname : recitingTwice.config.outputFile = "input.dvi" := rfl
  rw [hname, houtput] at hpage
  exact ⟨twiceDialogue d, hdialogue, hwrites, hends, hpage⟩

/-! ## An engine that writes a letter -/

/-- The program that opens the output file and prints a letter through its handle. -/
def letterProgram : Program where
  code := #[.call (.rewrite (.literal 9) (.literal 0)) (some (Fin.last 15)),
    .call (.printChar (.register (Fin.last 15)) (.literal 66)) none]
  start := []
  data := []
  minPages := 0
  maxPages := 65536
  isLinked := true
  omitted := []
  trapping := []
  refusesRewind := false

/-- It as an engine, with the name of the output file in front of its memory and a store that has
nothing. -/
def lettering : Typesetter Program.State where
  config := .standard
  engine := letterProgram.engine
  image := outputName
  loader := { store := fun _ => .error .notFound, layout := .standard }
  fonts := .empty
  clock := .fixed

theorem clockless_lettering : lettering.engine.Clockless := Program.engine_clockless (by decide) (by decide)

/-- Its states while it makes its first call, when it has the handle, and while it makes its second
call. -/
def openingState : Program.State := { Program.State.initial with pending := .call (some (Fin.last 15)) }
def openedState : Program.State := (openingState.setRegister (Fin.last 15) 0).next
def printingState : Program.State := { openedState with pending := .call none }

theorem step_opening (m : Memory) :
    lettering.host.guest.step .initial m = ⟨openingState, m, .call (.rewrite 9 0)⟩ := rfl

theorem step_printing (m : Memory) :
    lettering.host.guest.step openedState m = ⟨printingState, m, .call (.printChar 0 66)⟩ := rfl

theorem step_leaving (m : Memory) :
    lettering.host.guest.step printingState.next m = ⟨printingState.next, m, .leave⟩ := rfl

/-- The program opens its file, prints its letter, and leaves. -/
theorem runTurns_lettering (r : Request) (n : Nat) :
    ∃ s, runTurns lettering.host (n + 4) .guest (before .initial (documentDesk r)) = .ok () s ∧
      s.desk.readBack "input.dvi" = some (oneByte 66) := by
  let opened : Desk := ((documentDesk r).push (.regular emptyOutput)).2
  have hempty : opened.file 0 = .ok (.regular emptyOutput) := Desk.file_push rfl _
  obtain ⟨f, hf, hwrite⟩ := write_letter opened 0 (by decide) hempty 66
  let written : Desk := opened.setFile 0 (.regular f)
  have hopens : serve lettering.host (.rewrite 9 0) (before openingState (documentDesk r)) =
      .ok (some 0) (before openingState opened) := serve_rewrite rfl read_namedMemory (fresh_documentDesk r)
  have hprints : serve lettering.host (.printChar 0 66) (before printingState opened) =
      .ok none (before printingState written) := serve_printChar hwrite
  have hopen : takeTurn lettering.host .guest (before .initial (documentDesk r)) =
      .ok (some .guest) (before openedState opened) :=
    takeTurn_of_call (t := before openingState opened) (step_opening _) hopens rfl
  have hprint : takeTurn lettering.host .guest (before openedState opened) =
      .ok (some .guest) (before printingState.next written) :=
    takeTurn_of_call (t := before printingState written) (step_printing _) hprints rfl
  refine ⟨before printingState.next written, ?_, ?_⟩
  · rw [runTurns_succ, hopen]
    dsimp only
    rw [runTurns_succ, hprint]
    exact runTurns_of_leave (step_leaving _) rfl n
  · exact Desk.readBack_push_of_holds (d := documentDesk r) hf

/-- **It writes its letter for every request that names no bundles.** -/
theorem typeset_lettering {r : Request} (hbundles : r.options.bundles = []) :
    ∃ p, (lettering.typeset r).1 = .ok p ∧ p.page = oneByte 66 := by
  have hsetOut : lettering.setOut r #[] = .ok (documentDesk r) #[] := by
    rw [setOut, hbundles]
    rfl
  have hstart : Session.start lettering.host lettering.engine lettering.config.memoryPages lettering.image
      (documentDesk r) #[] = (.ok (), before .initial (documentDesk r)) := rfl
  have hcan : lettering.host.canCall (lettering.host.guest.callsOn .main) = true := by
    have hstack : lettering.host.hasStack = true := hasStack_standard
    rw [Host.canCall, hstack]
    rfl
  have henter : Serving.enter lettering.host .main (before .initial (documentDesk r)) =
      .ok () (before .initial (documentDesk r)) := Serving.enter_eq_ok _ hcan rfl
  obtain ⟨n, hn⟩ := Nat.exists_eq_add_of_le' (Nat.le_trans (by decide : 4 ≤ 6) le_unlimited)
  have hbudget : lettering.budget = n + 4 := hn
  obtain ⟨s, hrun, hback⟩ := runTurns_lettering r n
  have hwhole : Session.run lettering.host lettering.budget (before .initial (documentDesk r)) = .ok () s := by
    rw [run_eq, henter]
    dsimp only
    rw [hbudget, hrun]
  have hname : lettering.config.outputFile = "input.dvi" := rfl
  have hresult : (lettering.typeset r).1 = lettering.outcome s s.desk.console.flush.transcript := by
    rw [← typesetWith_nil, typesetWith_of_setOut hsetOut, Desk.insertAll_nil, typesetAt_of_run hstart hwhole]
  rw [hresult, outcome, hname, hback]
  exact ⟨_, rfl, rfl⟩

end Typesetter
end Galley
