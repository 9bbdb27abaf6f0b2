import Galley.Proofs.File.LineReading
import Galley.Proofs.File.Naming
import Galley.Proofs.Session.Reciting
import Galley.Proofs.Typesetter.Fetching
import Galley.Proofs.Typesetter.Showing

/-! # Opening what was provided

What is on the desk when a session sets out stays there to its end: what the guest writes goes
elsewhere, and only a name that is not stored is ever fetched (`Session.Retains.passes`).  So the
guest can open every provided file, at any time and without being suspended, if it asks for it
under its name (`Typesetter.provided_opens`).

A guest has only bytes to ask with.  They are read as ISO-8859-1 while names are texts, and a text
in UTF-8 is read as itself only in ASCII.  A document with another name is out of reach of a guest
that spells the name in UTF-8 (`Typesetter.accented_document_missed`). -/
namespace Galley

variable {σ : Type}

namespace Session
open Serving

/-! ## What is stored stays -/

/-- The session has what was on a desk, and waits for nothing that is stored. -/
structure Retains (d : Desk) (s : Session σ) : Prop where
  waits : s.Waits
  contents : ∀ {name : String} {content : ByteArray},
    d.contents[name]? = some content → s.desk.contents[name]? = some content
  fonts : s.desk.fonts = d.fonts

variable {h : Host σ} {turn turn' : Turn} {s s' : Session σ} {d : Desk} {l : List Notice} {name : String}
  {content : ByteArray}

theorem Retains.of_keeps (hkeeps : d.Keeps s.desk) (hsuspension : s.suspension = .initial) : Retains d s where
  waits name hname := by
    rw [hsuspension] at hname
    cases hname
  contents hstored := by rwa [hkeeps.contents]
  fonts := hkeeps.fonts

/-- What is put on the desk for one name leaves the others. -/
theorem getElem?_stocked {name' : String} (hne : name' ≠ name) (d : Desk) :
    (stocked h name' d).contents[name]? = d.contents[name]? := by
  rw [stocked]
  split
  · rw [Desk.insert, Std.HashMap.getElem?_insert, if_neg (by simpa using hne)]
  · rfl

/-- **A turn stores nothing over what is stored.** -/
theorem Retains.takeTurn (hr : Retains d s) (hs : takeTurn h turn s = .ok (some turn') s') : Retains d s' where
  waits := waits_takeTurn hs hr.waits
  fonts := (grows_takeTurn hs).fonts.trans hr.fonts
  contents {name content} hstored := by
    have hstored := hr.contents hstored
    cases turn with
    | guest => rwa [(served_of_takeTurn hs).contents]
    | host =>
      have hstocks := stocks_settle h s
      rw [settle_of_takeTurn hs] at hstocks
      rcases hstocks with hdesk | ⟨name', hname', hdesk⟩
      · change s'.desk = s.desk at hdesk
        rwa [hdesk]
      · -- what is waited for is not stored, so it has another name
        have hne : name' ≠ name := by
          rintro rfl
          rw [hr.waits name' hname'] at hstored
          cases hstored
        change s'.desk = _ at hdesk
        rwa [hdesk, getElem?_stocked hne]

theorem Retains.passes (hr : Retains d s) (hpasses : Passes h turn s l turn' s') : Retains d s' := by
  induction hpasses with
  | start => exact hr
  | turn _ hturn ih => exact ih.takeTurn hturn

/-! ## Opening it -/

/-- If the guest is being rewound it lets the host stop that. -/
def Wakes (h : Host σ) (s : Session σ) : Prop :=
  s.suspension.phase = .sleeping →
    ∃ guest, h.canCall (h.guest.callsOn .stopRewind) ∧ h.guest.enter .stopRewind s.guest = .ok guest

/-- An open that finds a file gives its handle, whether the guest is being rewound or not. -/
theorem openNamed_of_found {mode : Mode} {length pointer : Int32} {raw : ByteArray} {f : OpenFile}
    (hwakes : s.Wakes h) (hread : s.memory.read (Memory.address pointer) (Memory.address length) = .ok raw)
    (hfound : ∀ resuming, s.desk.openRaw raw mode resuming = s.desk.push f) :
    ∃ guest suspension, openNamed h mode length pointer s =
        .ok (Int32.ofNat s.desk.table.size) { s with guest, suspension, desk := (s.desk.push f).2 } ∧
      suspension.count = s.suspension.count ∧ suspension.pending = s.suspension.pending := by
  by_cases hphase : s.suspension.phase = .sleeping
  · obtain ⟨guest, hcan, hguest⟩ := hwakes hphase
    exact ⟨guest, _, openNamed_of_woken hphase hcan hguest hread (hfound true), rfl, rfl⟩
  · exact ⟨s.guest, s.suspension, openNamed_of_opened hphase hread (hfound false), rfl, rfl⟩

/-- A buffer that stands for a stored name opens what is stored. -/
theorem openRaw_of_contents {raw : ByteArray} (hparse : FileName.parse raw.data.toList = .file name)
    (hmetric : d.metric name .read = none) (hstored : d.contents[name]? = some content) (resuming : Bool) :
    d.openRaw raw .read resuming = d.push (.regular (.opened name .read content)) := by
  rw [Desk.openRaw, hparse]
  dsimp only
  rw [Desk.open, hmetric, hstored]

end Session

namespace Typesetter
open Session Serving

/-- The session in which a request is typeset, set out with this desk, comes to a turn of the guest. -/
def Reaches (t : Typesetter σ) (r : Request) (d : Desk) (s : Session σ) : Prop :=
  ∃ asked s₀ s₁ l, t.setOut r #[] = .ok d asked ∧
    Session.start t.host t.engine t.config.memoryPages t.image d asked = (.ok (), s₀) ∧
    enter t.host .main s₀ = .ok () s₁ ∧ Passes t.host .guest s₁ l .guest s

variable {t : Typesetter σ} {r : Request} {d : Desk} {s : Session σ}

theorem Reaches.retains (hreach : t.Reaches r d s) : Retains d s := by
  obtain ⟨asked, s₀, s₁, l, -, hstart, henter, hpasses⟩ := hreach
  obtain ⟨hkeeps, hsuspension⟩ := kept_of_start hstart
  obtain ⟨guest, rfl⟩ := enter_cases henter
  exact (Retains.of_keeps (s := { s₀ with guest }) hkeeps hsuspension).passes hpasses

/-- **The guest can open what was provided, under its name in ASCII.**  Whatever is on the desk
when the engine starts, and whatever has happened since the main function was entered: a read of a
bare name in ASCII, padded with spaces, gives a handle of a file that is open and has the content
that was provided, and does not suspend the guest.  A name that is not in ASCII is another one when
its bytes in UTF-8 are read. -/
theorem provided_opens (hreach : t.Reaches r d s) {name : String} {content : ByteArray}
    (hstored : d.contents[name]? = some content) (hbare : FileName.Bare name.toList) (hterminal : name ≠ "TTY:")
    (hpool : name ≠ "TeXformats:TEX.POOL") (hmetric : d.metric name .read = none) {guest : σ} {memory : Memory}
    (hwakes : Session.Wakes t.host { s with guest, memory }) (hroom : s.desk.table.size < 2 ^ 31)
    {length pointer : Int32} {raw : ByteArray} {spaces : Nat}
    (hread : memory.read (Memory.address pointer) (Memory.address length) = .ok raw)
    (hraw : raw.data.toList = name.toUTF8.data.toList ++ List.replicate spaces 0x20) :
    ((∀ c ∈ name.toList, Text.isAscii c) →
      ∃ handle s', serve t.host (.reset length pointer) { s with guest, memory } = .ok (some handle) s' ∧
        s'.desk.status handle = .ok 0 ∧ s'.desk.file handle = .ok (.regular (.opened name .read content)) ∧
        s'.suspension.count = s.suspension.count ∧ s'.suspension.pending = s.suspension.pending ∧
        s'.asked = s.asked) ∧
      ((¬ ∀ c ∈ name.toList, Text.isAscii c) →
        ∃ other, FileName.parse raw.data.toList = .file other ∧ other ≠ name) := by
  have hparse := FileName.parse_utf8_eq_iff hbare hterminal hpool spaces
  have hread_as : FileName.parse raw.data.toList = .file (.ofList (Text.misread name.toList)) := by
    rw [hraw]
    exact FileName.parse_utf8 hbare hterminal hpool spaces
  rw [← hraw] at hparse
  refine ⟨fun hascii => ?_, fun hnot => ⟨_, hread_as, fun hsame => hnot (hparse.mp ?_)⟩⟩
  · have hretains := hreach.retains
    have hmetric' : s.desk.metric name .read = none := by rwa [Desk.metric, hretains.fonts]
    have hfound := openRaw_of_contents (hparse.mpr hascii) hmetric' (hretains.contents hstored)
    obtain ⟨guest', suspension, hopen, hcount, hpending⟩ :=
      openNamed_of_found (s := { s with guest, memory }) hwakes hread hfound
    have hfile := Desk.file_push (d := s.desk) (Int32.toInt_ofNat_of_lt hroom)
      (.regular (.opened name .read content))
    refine ⟨_, _, map_of_ok hopen some, ?_, hfile, hcount, hpending, rfl⟩
    rw [Desk.status]
    exact congrArg (Except.map OpenFile.status) hfile
  · rw [hread_as, hsame]

/-! ## An engine that opens its document -/

/-- The name of the document in UTF-8, with spaces behind it. -/
def nameBuffer (inputName : String) (spaces : Nat) : ByteArray :=
  (inputName ++ ".tex").toUTF8 ++ (List.replicate spaces 0x20).toByteArray

/-- A standard setting but for the name of the document, an empty store, and an engine that opens the
document and leaves. -/
def opening (inputName : String) (spaces : Nat) : Typesetter (List (Call Int32)) where
  config := { Config.standard with inputName }
  engine := { Engine.reciting [.reset (Int32.ofNat (nameBuffer inputName spaces).size) 0] with
    data := [(0, nameBuffer inputName spaces)] }
  image := .empty
  loader := { store := fun _ => .error .notFound, layout := .standard }
  fonts := .empty
  clock := .fixed

/-- The desk that it is set out with, for a request that asks for nothing. -/
def openingDesk (inputName : String) : Desk :=
  (Desk.start ({ Config.standard with inputName } : Config).script.toUTF8 .empty).insert (inputName ++ ".tex")
    blank.document.toUTF8

/-- The session in which its main function is entered. -/
def atOpening (inputName : String) (spaces : Nat) : Session (List (Call Int32)) where
  guest := [.reset (Int32.ofNat (nameBuffer inputName spaces).size) 0]
  memory := (seeded (Config.standard.memoryPages * Config.pageSize) .empty).patch 0 (nameBuffer inputName spaces)
  desk := openingDesk inputName
  suspension := .initial
  asked := #[]

theorem getElem?_openingDesk (inputName : String) :
    (openingDesk inputName).contents[inputName ++ ".tex"]? = some blank.document.toUTF8 :=
  Std.HashMap.getElem?_insert_self

variable {inputName : String} {spaces : Nat}

theorem canCall_opening (e : Export) :
    (opening inputName spaces).host.canCall ((opening inputName spaces).host.guest.callsOn e) = true := by
  have hstack : (opening inputName spaces).host.hasStack = true := by
    change Config.hasStack .standard = true
    decide +kernel
  rw [Host.canCall, hstack]
  rfl

/-- The name fits into the memory. -/
def NameFits (inputName : String) (spaces : Nat) : Prop :=
  (nameBuffer inputName spaces).size ≤ Config.standard.memoryPages * Config.pageSize

theorem NameFits.seeded (hfits : NameFits inputName spaces) :
    0 + (nameBuffer inputName spaces).size ≤
      (seeded (Config.standard.memoryPages * Config.pageSize) .empty).size := by
  rw [size_seeded, Nat.zero_add]
  exact hfits

theorem start_opening (hfits : NameFits inputName spaces) :
    Session.start (opening inputName spaces).host (opening inputName spaces).engine
      (opening inputName spaces).config.memoryPages (opening inputName spaces).image (openingDesk inputName) #[] =
        (.ok (), atOpening inputName spaces) := by
  have hoverlay : overlay [(0, nameBuffer inputName spaces)]
      (seeded (Config.standard.memoryPages * Config.pageSize) .empty) = some (atOpening inputName spaces).memory := by
    rw [overlay, Memory.write_eq_ok hfits.seeded]
    rfl
  have hseated : seated? (opening inputName spaces).host (opening inputName spaces).engine
      (opening inputName spaces).config.memoryPages (opening inputName spaces).image (openingDesk inputName) #[] =
        some (atOpening inputName spaces) := by
    rw [seated?]
    exact (if_pos (by rfl)).trans (congrArg (Option.map _) hoverlay)
  rw [start_eq, hseated]
  rfl

theorem reaches_opening (hfits : NameFits inputName spaces) :
    (opening inputName spaces).Reaches blank (openingDesk inputName) (atOpening inputName spaces) :=
  ⟨#[], _, _, [], rfl, start_opening hfits, enter_eq_ok _ (canCall_opening _) rfl, .start⟩

theorem read_atOpening (hfits : NameFits inputName spaces) :
    (atOpening inputName spaces).memory.read 0 (nameBuffer inputName spaces).size =
      .ok (nameBuffer inputName spaces) :=
  Memory.read_patch hfits.seeded

/-- The document is opened by an engine that has a space behind its name. -/
theorem provided_opens_document :
    let t := opening "input" 1
    let s := atOpening "input" 1
    t.Reaches blank (openingDesk "input") s ∧
      ∃ handle s', serve t.host (.reset 10 0) s = .ok (some handle) s' ∧ s'.desk.status handle = .ok 0 ∧
        s'.desk.file handle = .ok (.regular (.opened "input.tex" .read blank.document.toUTF8)) ∧
        s'.suspension.count = 0 ∧ s'.asked = #[] := by
  intro t s
  have hbare : FileName.Bare "input.tex".toList := by decide
  have hsize : (nameBuffer "input" 1).size = 10 := by decide
  have hfits : NameFits "input" 1 := by
    rw [NameFits, hsize]
    decide
  have hread : s.memory.read (Memory.address 0) (Memory.address 10) = .ok (nameBuffer "input" 1) := by
    have hread := read_atOpening hfits
    rwa [hsize] at hread
  have hraw : (nameBuffer "input" 1).data.toList = "input.tex".toUTF8.data.toList ++ List.replicate 1 0x20 := by
    decide
  have hwakes : Session.Wakes t.host { s with guest := s.guest, memory := s.memory } := nofun
  have hroom : s.desk.table.size < 2 ^ 31 := by decide
  obtain ⟨handle, s', hserve, hstatus, hfile, hcount, -, hasked⟩ :=
    (provided_opens (reaches_opening hfits) (getElem?_openingDesk "input") hbare (by decide) (by decide) rfl
      hwakes hroom hread hraw).1 (List.all_eq_true.mp (by decide))
  exact ⟨reaches_opening hfits, handle, s', hserve, hstatus, hfile, hcount, hasked⟩

theorem not_knows_openingDesk {name : String} (hne : name ≠ inputName ++ ".tex")
    (hmetric : (openingDesk inputName).metric name .read = none) (hscratch : FileName.isScratch name = false) :
    ¬ (openingDesk inputName).Knows name := by
  have hstored : (openingDesk inputName).contents[name]? = none := by
    rw [openingDesk, Desk.insert, Std.HashMap.getElem?_insert, if_neg (by simpa using hne.symm)]
    exact Std.HashMap.getElem?_empty
  have htags : (openingDesk inputName).tags = #[] := Array.map_empty
  rintro (h | h | ⟨mode, h⟩ | h)
  · rw [hmetric] at h
    cases h
  · rw [hstored] at h
    cases h
  · rw [htags] at h
    cases Array.not_mem_empty _ h
  · rw [hscratch] at h
    cases h

/-- A document with an accent in its name is not found by an engine that has the name in UTF-8: the
engine is suspended for a file with another name. -/
theorem accented_document_missed :
    let t := opening "é" 0
    let d := openingDesk "é"
    let s := atOpening "é" 0
    t.Reaches blank d s ∧ d.contents["é.tex"]? = some blank.document.toUTF8 ∧ FileName.Bare "é.tex".toList ∧
      d.metric "é.tex" .read = none ∧ s.memory.read 0 6 = .ok "é.tex".toUTF8 ∧
      ∃ s', serve t.host (.reset 6 0) s = .ok (some (-1)) s' ∧ s'.suspension.pending = some "Ã©.tex" ∧
        s'.suspension.count = s.suspension.count + 1 := by
  intro t d s
  have hsize : (nameBuffer "é" 0).size = 6 := by decide
  have hfits : NameFits "é" 0 := by
    rw [NameFits, hsize]
    decide
  have hbuffer : nameBuffer "é" 0 = "é.tex".toUTF8 := by decide
  have hread : s.memory.read (Memory.address 0) (Memory.address 6) = .ok "é.tex".toUTF8 := by
    have hread := read_atOpening hfits
    rwa [hsize, hbuffer] at hread
  have hbare : FileName.Bare "é.tex".toList := by decide
  have hunknown : ¬ d.Knows "Ã©.tex" := not_knows_openingDesk (by decide) rfl (by decide)
  have hparse : FileName.parse "é.tex".toUTF8.data.toList = .file "Ã©.tex" := by decide
  have hfetch : d.openRaw "é.tex".toUTF8 .read false = (.fetch "Ã©.tex", d) := by
    rw [Desk.openRaw, hparse]
    exact Desk.open_of_not_knows hunknown
  have hroom : t.host.control.start + 8 ≤ s.memory.size := by
    have hmemory : s.memory.size = Config.standard.memoryPages * Config.pageSize :=
      (Memory.size_patch hfits.seeded).trans (size_seeded ..)
    rw [hmemory]
    exact room_of_check (c := .standard) rfl
  obtain ⟨memory, hprepare, -⟩ := ControlBlock.prepare_eq_ok hroom
  have hmissed := openNamed_of_missed (h := t.host) (s := s) rfl hread hfetch hprepare
    (canCall_opening _) rfl
  exact ⟨reaches_opening hfits, getElem?_openingDesk "é", hbare, rfl, hread, _, map_of_ok hmissed some, rfl, rfl⟩

end Typesetter
end Galley
