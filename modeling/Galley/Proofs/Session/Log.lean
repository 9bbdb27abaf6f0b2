import Galley.Proofs.Session.History

/-! # What the host sees of a session

The host sees the calls that it serves and the fetches that it has to make.  The `log` of a
session lists these `Notice`s in order, each with the files as they then were.  They are read
off the sessions before and after a turn.  Every turn gives one of them at most, and `Turned`
says what kinds of turns there are, with their notices; an invariant of a session and its log
so far is proved by one case for each kind.
A notice in the log of a run comes from a session that has been passed on the way
(`log_split`), and so does the end (`exists_passes_of_runTurns`). -/
namespace Galley

variable {σ : Type}

/-- A name that is handed to the loader. -/
structure Handover where
  name : String
  /-- The files at that moment. -/
  desk : Desk
  /-- What is stored under the name afterwards. -/
  content : Option ByteArray
  /-- The names that the store had been asked for before. -/
  asked : Array String
  /-- The names that it has been asked for after. -/
  askedAfter : Array String

/-- What the host sees. -/
inductive Notice where
  /-- A call that was made in this phase returned with the files like this. -/
  | returned (call : Call Int32) (phase : Phase) (desk : Desk)
  /-- An open missed a name that the files did not have, and the guest is to unwind. -/
  | missed (name : String) (desk : Desk)
  | handed (handover : Handover)

namespace Notice

def isReturned : Notice → Bool
  | returned .. => true
  | _ => false

/-- An open returned. -/
def isOpened : Notice → Bool
  | returned call _ _ => call.isOpen
  | _ => false

/-- The open returned at which the guest came back from a rewind. -/
def endsRewind : Notice → Bool
  | returned call phase _ => call.isOpen && phase == .sleeping
  | _ => false

def isHanded : Notice → Bool
  | handed _ => true
  | _ => false

end Notice

namespace Session
open Serving

/-- What the host sees of a call. -/
def noticed (call : Call Int32) (s : Session σ) : EStateM.Result Stop (Session σ) (Option Int32) → List Notice
  | .ok _ s' =>
    if s'.suspension.count = s.suspension.count then [.returned call s.suspension.phase s'.desk]
    else s'.suspension.pending.toList.map (.missed · s'.desk)
  | .error _ _ => []

/-- What the host has handed over if a guest that was on its way out sleeps after its turn. -/
def handedOver (s s' : Session σ) : List Notice :=
  if s.suspension.phase = .unwinding ∧ s'.suspension.phase = .sleeping then
    s.suspension.pending.toList.map fun name =>
      .handed { name, desk := s.desk, content := s'.desk.contents[name]?, asked := s.asked, askedAfter := s'.asked }
  else []

/-- What the host sees of a turn. -/
def notices (h : Host σ) (turn : Turn) (s : Session σ) : List Notice :=
  match turn with
  | .guest =>
    match (h.guest.step s.guest s.memory).move with
    | .call call => noticed call (s.stepped h.guest.step) (serve h call (s.stepped h.guest.step))
    | _ => []
  | .host => handedOver s (left (takeTurn h .host s))

/-- What the host sees of a session from a turn on, as far as a budget goes. -/
def log (h : Host σ) : Nat → Turn → Session σ → List Notice
  | 0, _, _ => []
  | budget + 1, turn, s =>
    notices h turn s ++
      match takeTurn h turn s with
      | .ok (some turn) s' => log h budget turn s'
      | _ => []

variable {h : Host σ} {turn turn' turn'' : Turn} {s s' s'' : Session σ} {l l' : List Notice}

/-! ## Calls -/

/-- A call that returned opened no file, and left the suspension as it was, or it was an
open. -/
theorem serve_cases {call : Call Int32} {r : Option Int32} (hs : serve h call s = .ok r s') :
    (call.isOpen = false ∧ s.desk.Keeps s'.desk ∧ s' = { s with desk := s'.desk, memory := s'.memory }) ∨
      (call.isOpen = true ∧ ∃ mode, OpenReply mode s s') := by
  by_cases hopen : call.isOpen = true
  · refine Or.inr ⟨hopen, ?_⟩
    cases call with
    | reset length pointer =>
      obtain ⟨a, ha, -⟩ := map_eq_ok hs
      exact ⟨.read, openNamed_cases ha⟩
    | rewrite length pointer =>
      obtain ⟨a, ha, -⟩ := map_eq_ok hs
      exact ⟨.write, openNamed_cases ha⟩
    | _ => cases hopen
  · have hpaired := paired_serve (abreast_self h.control s) h (by simpa using hopen) rfl
    rw [hs] at hpaired
    cases hpaired with
    | ok habreast => exact Or.inl ⟨by simpa using hopen, habreast.seat.kept, habreast.first⟩

/-! ## Handovers -/

/-- The name that the guest waits for is handed over: this is what the loader makes of it. -/
structure HandedOver (h : Host σ) (s : Session σ) (x : Handover) : Prop where
  phase : s.suspension.phase = .unwinding
  pending : s.suspension.pending = some x.name
  desk : x.desk = s.desk
  content : x.content = (stocked h x.name s.desk).contents[x.name]?
  asked : x.asked = s.asked
  askedAfter : x.askedAfter = Loader.askedAfter (h.loader.fetchOptional x.name s.asked)

theorem handedOver_of_awake (hphase : s.suspension.phase ≠ .unwinding) (s' : Session σ) : handedOver s s' = [] :=
  if_neg fun h => hphase h.1

/-- A guest that is still on its way out has been handed nothing. -/
theorem handedOver_of_kept (s : Session σ) (guest : σ) : handedOver s { s with guest } = [] :=
  if_neg fun ⟨hphase, hslept⟩ => by cases hphase.symm.trans hslept

/-- What is handed over to a guest that is supplied with the file that it waits for. -/
def handover (h : Host σ) (s : Session σ) (name : String) : Handover where
  name := name
  desk := s.desk
  content := (stocked h name s.desk).contents[name]?
  asked := s.asked
  askedAfter := Loader.askedAfter (h.loader.fetchOptional name s.asked)

theorem handedOver_of_supplied {name : String} (hphase : s.suspension.phase = .unwinding)
    (hpending : s.suspension.pending = some name) (guest : σ) :
    handedOver s { s with guest, suspension := s.suspension.slept, desk := stocked h name s.desk
                          asked := Loader.askedAfter (h.loader.fetchOptional name s.asked) } =
        [.handed (handover h s name)] ∧
      HandedOver h s (handover h s name) := by
  refine ⟨?_, hphase, hpending, rfl, rfl, rfl, rfl⟩
  rw [handedOver, if_pos ⟨hphase, rfl⟩, hpending]
  rfl

/-- However the host leaves a session, it has handed over the name that the guest waited for, or
nothing. -/
theorem Settles.handedOver_cases (hs : Settles h s s') :
    handedOver s s' = [] ∨ ∃ x, handedOver s s' = [.handed x] ∧ HandedOver h s x := by
  cases hs with
  | kept guest => exact Or.inl (handedOver_of_kept s guest)
  | supplied name guest hphase hpending => exact Or.inr ⟨_, handedOver_of_supplied hphase hpending guest⟩

/-! ## Turns -/

/-- A turn after which another one follows: its notices, and the session that it leaves. -/
inductive Turned (h : Host σ) (s : Session σ) : List Notice → Session σ → Prop where
  /-- The guest computes, or leaves its main function. -/
  | quiet (guest : σ) (memory : Memory) : Turned h s [] { s with guest, memory }
  /-- A call that opens no file returns. -/
  | called (call : Call Int32) (guest : σ) (memory : Memory) (desk : Desk) (hopen : call.isOpen = false)
      (hkept : s.desk.Keeps desk) :
      Turned h s [.returned call s.suspension.phase desk] { s with guest, memory, desk }
  /-- An open returns. -/
  | opened (call : Call Int32) (f : OpenFile) (guest : σ) (memory : Memory) (hopen : call.isOpen = true)
      (hphase : s.suspension.phase ≠ .sleeping) :
      Turned h s [.returned call s.suspension.phase (s.desk.push f).2]
        { s with guest, memory, desk := (s.desk.push f).2 }
  /-- The open returns that ends a rewind. -/
  | woken (call : Call Int32) (f : OpenFile) (guest : σ) (memory : Memory) (hopen : call.isOpen = true)
      (hphase : s.suspension.phase = .sleeping) :
      Turned h s [.returned call s.suspension.phase (s.desk.push f).2]
        { s with guest, memory, suspension := s.suspension.woken, desk := (s.desk.push f).2 }
  /-- An open misses a name. -/
  | missed (name : String) (guest : σ) (memory : Memory) (hphase : s.suspension.phase = .running)
      (hnot : ¬ s.desk.Knows name) :
      Turned h s [.missed name s.desk] { s with guest, memory, suspension := s.suspension.begun name }
  /-- The host hands over the name, stores what it gets, and rewinds the guest. -/
  | handed (x : Handover) (guest : σ) (hx : HandedOver h s x) :
      Turned h s [.handed x] { s with guest, suspension := s.suspension.slept
                                      desk := stocked h x.name s.desk, asked := x.askedAfter }

/-- What the host sees of a call that returned. -/
theorem turned_of_serve {call : Call Int32} {r : Option Int32} {memory : Memory} {guest : σ}
    (hs : serve h call { s with guest, memory } = .ok r s') (guest' : σ) :
    Turned h s (noticed call s (.ok r s')) { s' with guest := guest' } := by
  rcases serve_cases hs with ⟨hopen, hkept, hsame⟩ | ⟨hopen, mode, hreply⟩
  · rw [hsame, noticed, if_pos rfl]
    exact .called call guest' _ _ hopen hkept
  · cases hreply with
    | opened f guest'' hphase =>
      rw [noticed, if_pos rfl]
      exact .opened call f guest' memory hopen hphase
    | woken f guest'' hphase =>
      have hcount : s.suspension.woken.count = s.suspension.count := rfl
      rw [noticed, if_pos hcount]
      exact .woken call f guest' memory hopen hphase
    | missed name guest'' memory' hmode hphase hnot =>
      have hcount : (s.suspension.begun name).count ≠ s.suspension.count := Nat.succ_ne_self _
      rw [noticed, if_neg hcount]
      exact .missed name guest' memory' hphase hnot

theorem turned_of_guest (hs : takeTurn h .guest s = .ok (some turn') s') :
    Turned h s (notices h .guest s) s' := by
  rw [takeTurn_guest, perform_eq] at hs
  simp only [notices]
  cases hmove : (h.guest.step s.guest s.memory).move with
  | goOn =>
    rw [hmove] at hs
    cases hs
    exact .quiet ..
  | leave =>
    rw [hmove] at hs
    cases hs
    exact .quiet ..
  | trap cause =>
    rw [hmove] at hs
    cases hs
  | spin =>
    rw [hmove] at hs
    cases hs
  | call call =>
    simp only [hmove] at hs
    dsimp only
    cases hserve : serve h call (s.stepped h.guest.step) with
    | error e t =>
      rw [hserve] at hs
      cases hs
    | ok r t =>
      rw [hserve, answered] at hs
      split at hs
      next turn t' hresume =>
        split at hresume
        · cases hresume
          cases hs
          exact turned_of_serve hserve _
        · cases hresume
          cases hs
          exact turned_of_serve hserve _
      next => cases hs

theorem turned_of_host (hs : takeTurn h .host s = .ok (some turn') s') : Turned h s (notices h .host s) s' := by
  have hsettle := settle_of_takeTurn hs
  obtain ⟨hphase, hslept⟩ := slept_of_settle hsettle
  have hsettles := settles h s
  rw [hsettle] at hsettles
  rw [notices, hs]
  change Settles h s s' at hsettles
  change Turned h s (handedOver s s') s'
  cases hsettles with
  | kept guest => cases hphase.symm.trans (congrArg Suspension.phase hslept)
  | supplied name guest _ hpending =>
    obtain ⟨hnotices, hx⟩ := handedOver_of_supplied (h := h) hphase hpending guest
    rw [hnotices]
    exact .handed (handover h s name) guest hx

/-- **Every turn is of one of these kinds.** -/
theorem turned_of_takeTurn (hs : takeTurn h turn s = .ok (some turn') s') : Turned h s (notices h turn s) s' := by
  cases turn with
  | guest => exact turned_of_guest hs
  | host => exact turned_of_host hs

/-- What notices tell of the session in which they were taken. -/
def Tells (h : Host σ) (s : Session σ) (l : List Notice) : Prop :=
  l = [] ∨ (∃ call desk, l = [.returned call s.suspension.phase desk]) ∨
    (∃ name, l = [.missed name s.desk] ∧ s.suspension.phase = .running ∧ ¬ s.desk.Knows name) ∨
    ∃ x, l = [.handed x] ∧ HandedOver h s x

theorem Turned.tells (hs : Turned h s l s') : Tells h s l := by
  cases hs with
  | quiet guest memory => exact Or.inl rfl
  | called call guest memory desk hopen hkept => exact Or.inr (Or.inl ⟨call, _, rfl⟩)
  | opened call f guest memory hopen hphase => exact Or.inr (Or.inl ⟨call, _, rfl⟩)
  | woken call f guest memory hopen hphase => exact Or.inr (Or.inl ⟨call, _, rfl⟩)
  | missed name guest memory hphase hnot => exact Or.inr (Or.inr (Or.inl ⟨name, rfl, hphase, hnot⟩))
  | handed x guest hx => exact Or.inr (Or.inr (Or.inr ⟨x, rfl, hx⟩))

/-- The notices of a turn tell this whether another turn follows or not. -/
theorem tells_notices (h : Host σ) (turn : Turn) (s : Session σ) : Tells h s (notices h turn s) := by
  cases turn with
  | host =>
    rw [notices, left_takeTurn_host]
    exact (settles h s).handedOver_cases.imp_right fun hx => Or.inr (Or.inr hx)
  | guest =>
    simp only [notices]
    cases (h.guest.step s.guest s.memory).move with
    | call call =>
      dsimp only
      cases hserve : serve h call (s.stepped h.guest.step) with
      | error e t => exact Or.inl rfl
      | ok r t => exact (turned_of_serve hserve t.guest).tells
    | goOn | leave | trap | spin => exact Or.inl rfl

/-! ## Along a run -/

/-- Turns lead from one session to another, with these notices on the way. -/
inductive Passes (h : Host σ) (turn : Turn) (s : Session σ) : List Notice → Turn → Session σ → Prop where
  | start : Passes h turn s [] turn s
  | turn {l : List Notice} {turn' turn'' : Turn} {s' s'' : Session σ} (hpasses : Passes h turn s l turn' s')
      (hturn : takeTurn h turn' s' = .ok (some turn'') s'') : Passes h turn s (l ++ notices h turn' s') turn'' s''

theorem Passes.after (hturn : takeTurn h turn s = .ok (some turn') s') (hpasses : Passes h turn' s' l turn'' s'') :
    Passes h turn s (notices h turn s ++ l) turn'' s'' := by
  induction hpasses with
  | start =>
    rw [List.append_nil, ← List.nil_append (notices h turn s)]
    exact .turn .start hturn
  | turn _ hnext ih =>
    rw [← List.append_assoc]
    exact .turn ih hnext

theorem log_succ_of_turn {budget : Nat} (hturn : takeTurn h turn s = .ok (some turn') s') :
    log h (budget + 1) turn s = notices h turn s ++ log h budget turn' s' := by
  rw [log, hturn]

theorem log_succ_of_end {budget : Nat} (hend : ∀ turn' s', takeTurn h turn s ≠ .ok (some turn') s') :
    log h (budget + 1) turn s = notices h turn s := by
  rw [log]
  split
  next turn' s' hturn => exact absurd hturn (hend turn' s')
  next => exact List.append_nil _

theorem Tells.short (hl : Tells h s l) : l = [] ∨ ∃ n, l = [n] := by
  rcases hl with rfl | ⟨call, desk, rfl⟩ | ⟨name, rfl, -⟩ | ⟨x, rfl, -⟩
  · exact Or.inl rfl
  · exact Or.inr ⟨_, rfl⟩
  · exact Or.inr ⟨_, rfl⟩
  · exact Or.inr ⟨_, rfl⟩

/-- A notice in a log was taken in a session that the run has passed. -/
theorem log_split {budget : Nat} {past future : List Notice} {n : Notice}
    (hlog : log h budget turn s = past ++ n :: future) :
    ∃ turn' s', Passes h turn s past turn' s' ∧ notices h turn' s' = [n] := by
  induction budget generalizing turn s past with
  | zero => simp [log] at hlog
  | succ budget ih =>
    by_cases hnext : ∃ turn' s', takeTurn h turn s = .ok (some turn') s'
    · obtain ⟨turn', s', hturn⟩ := hnext
      rw [log_succ_of_turn hturn] at hlog
      -- a turn gives one notice at most: it is the one that is sought, or that lies further on
      rcases (tells_notices h turn s).short with hnone | ⟨m, hone⟩
      · rw [hnone, List.nil_append] at hlog
        obtain ⟨turn'', s'', hpasses, hn⟩ := ih hlog
        have hafter := hpasses.after hturn
        rw [hnone, List.nil_append] at hafter
        exact ⟨turn'', s'', hafter, hn⟩
      · rw [hone, List.singleton_append] at hlog
        cases past with
        | nil =>
          obtain ⟨rfl, -⟩ := List.cons.inj hlog
          exact ⟨turn, s, .start, hone⟩
        | cons m' past =>
          obtain ⟨rfl, hrest⟩ := List.cons.inj hlog
          obtain ⟨turn'', s'', hpasses, hn⟩ := ih hrest
          have hafter := hpasses.after hturn
          rw [hone, List.singleton_append] at hafter
          exact ⟨turn'', s'', hafter, hn⟩
    · rw [log_succ_of_end fun turn' s' hturn => hnext ⟨turn', s', hturn⟩] at hlog
      rcases (tells_notices h turn s).short with hnone | ⟨m, hone⟩
      · rw [hnone] at hlog
        simp at hlog
      · rw [hone] at hlog
        cases past with
        | nil =>
          obtain ⟨rfl, -⟩ := List.cons.inj hlog
          exact ⟨turn, s, .start, hone⟩
        | cons m' past => simp at hlog

/-- The host ends a run only when the guest has nothing outstanding. -/
theorem running_of_takeTurn (hs : takeTurn h .host s = .ok none s') : s.suspension.phase = .running ∧ s' = s := by
  rw [takeTurn_host] at hs
  have hsettle : settle h s = .ok true s' := by
    split at hs
    · cases hs
      assumption
    · cases hs
    · cases hs
  cases hphase : s.suspension.phase with
  | running =>
    rw [settle_of_running hphase] at hsettle
    cases hsettle
    exact ⟨rfl, rfl⟩
  | sleeping =>
    rw [settle_of_sleeping hphase] at hsettle
    cases hsettle
  | unwinding =>
    rw [settle_of_unwinding hphase] at hsettle
    obtain ⟨_, _, _, hsleeping⟩ := bind_eq_ok hsettle
    obtain ⟨_, _, _, hsupplying⟩ := bind_eq_ok hsleeping
    obtain ⟨_, _, _, hrewinding⟩ := bind_eq_ok hsupplying
    obtain ⟨_, _, _, hentering⟩ := bind_eq_ok hrewinding
    obtain ⟨_, _, _, hdone⟩ := bind_eq_ok hentering
    cases hdone

/-- A run that comes to its end passes all of its log. -/
theorem exists_passes_of_runTurns {budget : Nat} (hrun : runTurns h budget turn s = .ok () s') :
    s'.suspension.phase = .running ∧ Passes h turn s (log h budget turn s) .host s' := by
  induction budget generalizing turn s with
  | zero => cases hrun
  | succ budget ih =>
    rw [runTurns_succ] at hrun
    split at hrun
    next turn' t hturn =>
      obtain ⟨hphase, hpasses⟩ := ih hrun
      rw [log_succ_of_turn hturn]
      exact ⟨hphase, hpasses.after hturn⟩
    next t hturn =>
      cases hrun
      cases turn with
      | guest =>
        rw [takeTurn_guest] at hturn
        split at hturn <;> cases hturn
      | host =>
        obtain ⟨hphase, rfl⟩ := running_of_takeTurn hturn
        -- a turn that ends the run hands nothing over
        have hquiet : notices h .host s' = [] := handedOver_of_awake (by rw [hphase]; nofun) _
        have hend (turn' : Turn) (t' : Session σ) : takeTurn h .host s' ≠ .ok (some turn') t' := by
          rw [hturn]
          nofun
        rw [log_succ_of_end hend, hquiet]
        exact ⟨hphase, .start⟩
    next e t hturn => cases hrun

end Session
end Galley
