import Galley.Proofs.Loader
import Galley.Proofs.Session.Opening
import Galley.Session.Start

/-! # The history of a session

A session's `history` tells which calls were completed and with what result, which names
were missed, and which files were fetched.  Whatever the guest does, a name that the desk
knows is neither missed nor fetched from then on (`not_mem_history_of_knows`), and what is
fetched under a name is what the loader has for it (`content_of_mem_history`). -/
namespace Galley

/-- Something that happens between a guest and its host. -/
inductive Happening where
  /-- A call returned, with this result and this memory outside the control words. -/
  | completed (call : Call Int32) (result : Option Int32) (memory : Memory)
  /-- An open suspended the guest for the sake of a file. -/
  | missed (name : String)
  /-- A file was fetched and stored while the guest slept. -/
  | fetched (name : String) (content : ByteArray)

variable {σ : Type}

namespace Session
open Serving

/-- The session after a step of the guest, before the host does its part. -/
def stepped (s : Session σ) (step : σ → Memory → Action σ) : Session σ :=
  { s with guest := (step s.guest s.memory).state, memory := (step s.guest s.memory).memory }

/-- What a served call adds to the history. -/
def reported (b : ControlBlock) (call : Call Int32) (s : Session σ) :
    EStateM.Result Stop (Session σ) (Option Int32) → List Happening
  | .ok result s' =>
    if s'.suspension.count = s.suspension.count then [.completed call result (b.veil s'.memory)]
    else s'.suspension.pending.toList.map .missed
  | .error _ _ => []

/-- What a step of the guest adds to the history. -/
def called (h : Host σ) (answer : Call Int32 → Serving σ (Option Int32)) (step : σ → Memory → Action σ)
    (s : Session σ) : List Happening :=
  match (step s.guest s.memory).move with
  | .call call => reported h.control call (s.stepped step) (answer call (s.stepped step))
  | _ => []

/-- The file that has been stored under the name that the guest waited for. -/
def supplied (s s' : Session σ) : List Happening :=
  match s.suspension.pending with
  | some name => (s'.desk.contents[name]?).toList.map (.fetched name)
  | none => []

/-- The session that an action leaves, whether it succeeds or not. -/
def left {α : Type} : EStateM.Result Stop (Session σ) α → Session σ
  | .ok _ s => s
  | .error _ s => s

/-- What a turn adds to the history. -/
def happenings (h : Host σ) (turn : Turn) (s : Session σ) : List Happening :=
  match turn with
  | .guest => called h (serve h) h.guest.step s
  | .host => supplied s (left (takeTurn h .host s))

/-- The history of a session from a turn on, as far as a budget goes. -/
def history (h : Host σ) : Nat → Turn → Session σ → List Happening
  | 0, _, _ => []
  | budget + 1, turn, s =>
    happenings h turn s ++
      match takeTurn h turn s with
      | .ok (some turn) s' => history h budget turn s'
      | _ => []

/-- The history of a start function. -/
def startHistory (h : Host σ) : List (σ → Memory → Action σ) → Session σ → List Happening
  | [], _ => []
  | step :: more, s =>
    called h (serveDetached h) step s ++
      match perform h (serveDetached h) step s with
      | .ok .guest s' => startHistory h more s'
      | _ => []

/-! ## Turns -/

variable {h : Host σ} {answer : Call Int32 → Serving σ (Option Int32)} {step : σ → Memory → Action σ}
  {s s' : Session σ}

/-- Gives the result of a call back to the guest. -/
def answered (h : Host σ) : EStateM.Result Stop (Session σ) (Option Int32) → EStateM.Result Stop (Session σ) Turn
  | .ok result s =>
    match h.guest.resume s.guest result with
    | .goOn guest => .ok .guest { s with guest }
    | .leave guest => .ok .host { s with guest }
  | .error e s => .error e s

theorem reported_of_completed {b : ControlBlock} {call : Call Int32} {result : Option Int32}
    (hcount : s'.suspension.count = s.suspension.count) :
    reported b call s (.ok result s') = [.completed call result (b.veil s'.memory)] := by
  rw [reported, if_pos hcount]

theorem reported_of_missed {b : ControlBlock} {call : Call Int32} {result : Option Int32} {name : String}
    (hcount : s'.suspension.count ≠ s.suspension.count) (hpending : s'.suspension.pending = some name) :
    reported b call s (.ok result s') = [.missed name] := by
  rw [reported, if_neg hcount, hpending]
  rfl

theorem answered_of_leave {result : Option Int32} {guest : σ} (hresume : h.guest.resume s.guest result = .leave guest) :
    answered h (.ok result s) = .ok .host { s with guest } := by
  rw [answered, hresume]

theorem perform_eq (h : Host σ) (answer : Call Int32 → Serving σ (Option Int32)) (step : σ → Memory → Action σ)
    (s : Session σ) : perform h answer step s =
      match (step s.guest s.memory).move with
      | .goOn => .ok .guest (s.stepped step)
      | .leave => .ok .host (s.stepped step)
      | .trap cause => .error (.trap cause) (s.stepped step)
      | .spin => .error .outOfFuel (s.stepped step)
      | .call call => answered h (answer call (s.stepped step)) := by
  simp only [perform, stepped]
  cases (step s.guest s.memory).move with
  | call call =>
    dsimp only
    cases answer call _ with
    | ok result t =>
      cases hresume : h.guest.resume t.guest result <;> simp only [answered, hresume]
    | error e t => rfl
  | _ => rfl

theorem takeTurn_guest (h : Host σ) (s : Session σ) : takeTurn h .guest s =
    match perform h (serve h) h.guest.step s with
    | .ok turn s' => .ok (some turn) s'
    | .error e s' => .error e s' := by
  simp only [takeTurn, Functor.map, EStateM.map]
  cases perform h (serve h) h.guest.step s <;> rfl

theorem takeTurn_host (h : Host σ) (s : Session σ) : takeTurn h .host s =
    match settle h s with
    | .ok true s' => .ok none s'
    | .ok false s' => .ok (some .guest) s'
    | .error e s' => .error e s' := by
  simp only [takeTurn, bind, EStateM.bind]
  cases settle h s with
  | ok isOver s' => cases isOver <;> rfl
  | error e s' => rfl

theorem runTurns_succ (h : Host σ) (budget : Nat) (turn : Turn) (s : Session σ) :
    runTurns h (budget + 1) turn s =
      match takeTurn h turn s with
      | .ok (some turn) s' => runTurns h budget turn s'
      | .ok none s' => .ok () s'
      | .error e s' => .error e s' := by
  simp only [runTurns, bind, EStateM.bind]
  cases takeTurn h turn s with
  | ok next s' => cases next <;> rfl
  | error e s' => rfl

/-- A step that makes a call, which returns to the guest. -/
theorem takeTurn_of_call {guest guest' : σ} {call : Call Int32} {result : Option Int32} {t : Session σ}
    (hstep : h.guest.step s.guest s.memory = ⟨guest, s.memory, .call call⟩)
    (hserve : serve h call { s with guest } = .ok result t)
    (hresume : h.guest.resume t.guest result = .goOn guest') :
    takeTurn h .guest s = .ok (some .guest) { t with guest := guest' } := by
  have hstepped : s.stepped h.guest.step = { s with guest } := by rw [stepped, hstep]
  rw [takeTurn_guest, perform_eq, hstep, hstepped]
  dsimp only
  rw [hserve, answered, hresume]

/-- A step that leaves the main function. -/
theorem takeTurn_of_leave {guest : σ} (hstep : h.guest.step s.guest s.memory = ⟨guest, s.memory, .leave⟩) :
    takeTurn h .guest s = .ok (some .host) { s with guest } := by
  have hstepped : s.stepped h.guest.step = { s with guest } := by rw [stepped, hstep]
  rw [takeTurn_guest, perform_eq, hstep, hstepped]

/-! ## What is known is neither missed nor fetched -/

theorem abreast_self (b : ControlBlock) (s : Session σ) : Abreast b s s s s :=
  ⟨⟨Desk.Keeps.refl _, rfl, rfl, .refl b _⟩, rfl, rfl⟩

theorem served_of_serve {call : Call Int32} {r : Option Int32} (hs : serve h call s = .ok r s') : Served s s' := by
  by_cases hopen : call.isOpen = true
  · cases call with
    | reset length pointer =>
      obtain ⟨a, ha, -⟩ := map_eq_ok hs
      exact served_of_openNamed ha
    | rewrite length pointer =>
      obtain ⟨a, ha, -⟩ := map_eq_ok hs
      exact served_of_openNamed ha
    | _ => cases hopen
  · have hpaired := paired_serve (abreast_self h.control s) h (by simpa using hopen) rfl
    rw [hs] at hpaired
    cases hpaired with
    | ok habreast =>
      have hkept : s.desk.Keeps s'.desk := habreast.seat.kept
      rw [habreast.first]
      exact ⟨hkept.grows, hkept.contents, Or.inl ⟨rfl, rfl⟩⟩

/-- A step of the guest keeps the desk and the suspension, or has a call served. -/
theorem served_of_perform {turn : Turn}
    (hanswer : ∀ {call r s s'}, answer call s = .ok r s' → Served s s')
    (hs : perform h answer step s = .ok turn s') : Served s s' := by
  have hkept : Served s (s.stepped step) := ⟨.refl _, rfl, Or.inl ⟨rfl, rfl⟩⟩
  rw [perform_eq] at hs
  split at hs
  · cases hs
    exact hkept
  · cases hs
    exact hkept
  · cases hs
  · cases hs
  next call hcall =>
    cases hserve : answer call (s.stepped step) with
    | error e t =>
      rw [hserve] at hs
      cases hs
    | ok result t =>
      obtain ⟨hgrows, hcontents, hmissed⟩ := hanswer hserve
      rw [hserve, answered] at hs
      split at hs
      · cases hs
        exact ⟨hgrows, hcontents, hmissed⟩
      · cases hs
        exact ⟨hgrows, hcontents, hmissed⟩

/-! ## Turns of the host -/

/-- What the host puts on the desk for a name. -/
def stocked (h : Host σ) (name : String) (d : Desk) : Desk :=
  match h.loader.content? name with
  | some content => d.insert name content
  | none => d

/-- What supplying a guest with a file comes to: all that the loader asks for is asked for. -/
theorem supply_eq (h : Host σ) (name : String) (s : Session σ) :
    supply h name s = .ok () { s with asked := Loader.askedAfter (h.loader.fetchOptional name s.asked)
                                      desk := stocked h name s.desk } := by
  obtain ⟨asked, hfetch⟩ := h.loader.fetchOptional_eq_ok name s.asked
  simp only [supply, hfetch, stocked]
  cases h.loader.content? name <;> rfl

theorem settle_of_running (hphase : s.suspension.phase = .running) : settle h s = .ok true s := by
  rw [settle, get_bind, hphase]
  rfl

theorem takeTurn_of_running (hphase : s.suspension.phase = .running) : takeTurn h .host s = .ok none s := by
  rw [takeTurn_host, settle_of_running hphase]

/-- A guest that leaves with nothing outstanding ends its run. -/
theorem runTurns_of_leave {guest : σ} (hstep : h.guest.step s.guest s.memory = ⟨guest, s.memory, .leave⟩)
    (hphase : s.suspension.phase = .running) (n : Nat) : runTurns h (n + 2) .guest s = .ok () { s with guest } := by
  have hends : takeTurn h .host { s with guest } = .ok none { s with guest } := takeTurn_of_running hphase
  rw [runTurns_succ, takeTurn_of_leave hstep]
  dsimp only
  rw [runTurns_succ, hends]

theorem settle_of_sleeping (hphase : s.suspension.phase = .sleeping) : settle h s = .error .lostRewind s := by
  rw [settle, get_bind, hphase]
  rfl

theorem settle_of_unwinding (hphase : s.suspension.phase = .unwinding) :
    settle h s =
      (do enter h .stopUnwind
          let name ← transition Suspension.sleep
          supply h name
          enter h (.startRewind h.control.address)
          enter h .main
          pure false : Serving σ Bool) s := by
  rw [settle, get_bind, hphase]

theorem left_bind {α β : Type} {P : Session σ → Prop} {op : Serving σ α} {k : α → Serving σ β}
    (hop : P (left (op s))) (hk : ∀ a s', op s = .ok a s' → P (left (k a s'))) : P (left ((op >>= k) s)) := by
  change P (left (EStateM.bind op k s))
  simp only [EStateM.bind]
  cases hs : op s with
  | ok a s' => exact hk a s' hs
  | error e s' => rwa [hs] at hop

theorem left_enter (h : Host σ) (e : Entry) (s : Session σ) : ∃ guest, left (enter h e s) = { s with guest } := by
  simp only [enter]
  split
  · split <;> exact ⟨_, rfl⟩
  · exact ⟨s.guest, rfl⟩

theorem left_transition {α : Type} {move : Suspension → Except Suspension.Refused (α × Suspension)}
    (hmove : ∀ a suspension, move s.suspension ≠ .ok (a, suspension)) : left (transition move s) = s := by
  simp only [transition]
  split
  next hs => exact absurd hs (hmove _ _)
  next => rfl

/-- **How the host leaves a session**, whether it succeeds or not: as it was but for the guest, or
with the guest asleep and supplied with the file that it waited for. -/
inductive Settles (h : Host σ) (s : Session σ) : Session σ → Prop where
  | kept (guest : σ) : Settles h s { s with guest }
  | supplied (name : String) (guest : σ) (hphase : s.suspension.phase = .unwinding)
      (hpending : s.suspension.pending = some name) :
      Settles h s { s with guest, suspension := s.suspension.slept, desk := stocked h name s.desk
                           asked := Loader.askedAfter (h.loader.fetchOptional name s.asked) }

/-- The guest is entered once more. -/
theorem Settles.entered {t u : Session σ} (ht : Settles h s t) (hu : ∃ guest, u = { t with guest }) :
    Settles h s u := by
  obtain ⟨guest, rfl⟩ := hu
  cases ht with
  | kept => exact .kept guest
  | supplied name _ hphase hpending => exact .supplied name guest hphase hpending

theorem settles (h : Host σ) (s : Session σ) : Settles h s (left (settle h s)) := by
  cases hphase : s.suspension.phase with
  | running =>
    rw [settle_of_running hphase]
    exact .kept s.guest
  | sleeping =>
    rw [settle_of_sleeping hphase]
    exact .kept s.guest
  | unwinding =>
    rw [settle_of_unwinding hphase]
    -- each of the five actions may be the last one; the second puts the guest to sleep
    refine left_bind (P := Settles h s) (Settles.entered (.kept s.guest) (left_enter ..)) fun _ t ht => ?_
    obtain ⟨guest, rfl⟩ := enter_cases ht
    cases hsleep : s.suspension.sleep with
    | error e =>
      have hkept : left ((transition Suspension.sleep : Serving σ String) { s with guest }) = { s with guest } :=
        left_transition fun name suspension h => by cases hsleep.symm.trans h
      refine left_bind (P := Settles h s) (by rw [hkept]; exact .kept guest) fun name u hu => ?_
      obtain ⟨suspension, h, -⟩ := transition_cases hu
      cases hsleep.symm.trans h
    | ok slept =>
      obtain ⟨name, suspension⟩ := slept
      obtain ⟨-, hpending, rfl⟩ := Suspension.sleep_cases hsleep
      have hslept : (transition Suspension.sleep : Serving σ String) { s with guest } =
          .ok name { s with guest, suspension := s.suspension.slept } := by
        simp only [transition, hsleep]
      have hsupplied := Settles.supplied (h := h) name guest hphase hpending
      rw [bind_of_ok hslept, bind_of_ok (supply_eq ..)]
      refine left_bind (P := Settles h s) (hsupplied.entered (left_enter ..)) fun _ v hv => ?_
      have hrewinding := hsupplied.entered (enter_cases hv)
      refine left_bind (P := Settles h s) (hrewinding.entered (left_enter ..)) fun _ w hw => ?_
      exact hrewinding.entered (enter_cases hw)

/-- Since `s` the desk has changed by the file that the guest waits for at most. -/
def Stocks (h : Host σ) (s t : Session σ) : Prop :=
  t.desk = s.desk ∨ ∃ name, s.suspension.pending = some name ∧ t.desk = stocked h name s.desk

theorem Settles.stocks {t : Session σ} (ht : Settles h s t) : Stocks h s t := by
  cases ht with
  | kept => exact Or.inl rfl
  | supplied name _ _ hpending => exact Or.inr ⟨name, hpending, rfl⟩

theorem stocks_settle (h : Host σ) (s : Session σ) : Stocks h s (left (settle h s)) := (settles h s).stocks

/-- When the guest goes on it is being rewound, and nothing is waited for. -/
theorem slept_of_settle (hs : settle h s = .ok false s') :
    s.suspension.phase = .unwinding ∧ s'.suspension = s.suspension.slept := by
  cases hphase : s.suspension.phase with
  | running =>
    rw [settle_of_running hphase] at hs
    cases hs
  | sleeping =>
    rw [settle_of_sleeping hphase] at hs
    cases hs
  | unwinding =>
    rw [settle_of_unwinding hphase] at hs
    obtain ⟨_, t, ht, hsleeping⟩ := bind_eq_ok hs
    obtain ⟨name, u, hu, hsupplying⟩ := bind_eq_ok hsleeping
    rw [bind_of_ok (supply_eq ..)] at hsupplying
    obtain ⟨_, w, hw, hentering⟩ := bind_eq_ok hsupplying
    obtain ⟨_, z, hz, hdone⟩ := bind_eq_ok hentering
    obtain ⟨guest, rfl⟩ := enter_cases ht
    obtain ⟨suspension, hsleep, rfl⟩ := transition_cases hu
    obtain ⟨guest', rfl⟩ := enter_cases hw
    obtain ⟨guest'', rfl⟩ := enter_cases hz
    cases hdone
    obtain ⟨-, -, rfl⟩ := Suspension.sleep_cases hsleep
    exact ⟨rfl, rfl⟩

theorem pending_of_settle (hs : settle h s = .ok false s') : s'.suspension.pending = none := by
  rw [(slept_of_settle hs).2]
  rfl

/-! ## Along a run -/

variable {turn turn' : Turn} {name : String} {content : ByteArray}

theorem served_of_takeTurn (hs : takeTurn h .guest s = .ok (some turn') s') : Served s s' := by
  rw [takeTurn_guest] at hs
  cases hperform : perform h (serve h) h.guest.step s with
  | error e t =>
    rw [hperform] at hs
    cases hs
  | ok next t =>
    rw [hperform] at hs
    cases hs
    exact served_of_perform served_of_serve hperform

theorem left_takeTurn_host (h : Host σ) (s : Session σ) : left (takeTurn h .host s) = left (settle h s) := by
  rw [takeTurn_host]
  cases settle h s with
  | ok isOver s' => cases isOver <;> rfl
  | error e s' => rfl

theorem settle_of_takeTurn (hs : takeTurn h .host s = .ok (some turn') s') : settle h s = .ok false s' := by
  rw [takeTurn_host] at hs
  cases hsettle : settle h s with
  | ok isOver t =>
    rw [hsettle] at hs
    cases isOver <;> cases hs
    rfl
  | error e t =>
    rw [hsettle] at hs
    cases hs

theorem grows_stocked (h : Host σ) (name : String) (d : Desk) : d.Grows (stocked h name d) := by
  unfold stocked
  split
  · exact d.grows_insert ..
  · exact .refl d

/-- A turn adds to the desk. -/
theorem grows_takeTurn (hs : takeTurn h turn s = .ok (some turn') s') : s.desk.Grows s'.desk := by
  cases turn with
  | guest => exact (served_of_takeTurn hs).grows
  | host =>
    have hstocks := stocks_settle h s
    rw [settle_of_takeTurn hs] at hstocks
    rcases hstocks with hdesk | ⟨name, -, hdesk⟩
    · change s'.desk = s.desk at hdesk
      rw [hdesk]
      exact .refl _
    · change s'.desk = _ at hdesk
      rw [hdesk]
      exact grows_stocked ..

/-- What is waited for after a turn was waited for before it, or was not known. -/
theorem pending_of_takeTurn (hs : takeTurn h turn s = .ok (some turn') s') (hname : s'.suspension.pending = some name) :
    s.suspension.pending = some name ∨ ¬ s.desk.Knows name := by
  cases turn with
  | guest =>
    rcases (served_of_takeTurn hs).missed with ⟨-, hkept⟩ | ⟨name', hmissed, hnot⟩
    · exact Or.inl (hkept ▸ hname)
    · rw [hname] at hmissed
      obtain rfl := Option.some.inj hmissed
      exact Or.inr hnot
  | host =>
    rw [pending_of_settle (settle_of_takeTurn hs)] at hname
    cases hname

theorem not_knows_of_missed (hmem : .missed name ∈ happenings h turn s) : ¬ s.desk.Knows name := by
  cases turn with
  | host =>
    simp only [happenings, supplied] at hmem
    split at hmem <;> simp at hmem
  | guest =>
    simp only [happenings, called] at hmem
    split at hmem
    next call hcall =>
      cases hserve : serve h call (s.stepped h.guest.step) with
      | error e t =>
        rw [hserve] at hmem
        cases hmem
      | ok result t =>
        simp only [hserve, reported] at hmem
        split at hmem
        next => simp at hmem
        next hcount =>
          rcases (served_of_serve hserve).missed with ⟨hsame, -⟩ | ⟨name', hmissed, hnot⟩
          · exact absurd hsame hcount
          · rw [hmissed] at hmem
            simp at hmem
            exact hmem ▸ hnot
    next => cases hmem

theorem pending_of_fetched (hmem : .fetched name content ∈ happenings h turn s) :
    s.suspension.pending = some name ∧ (left (takeTurn h .host s)).desk.contents[name]? = some content := by
  cases turn with
  | host =>
    simp only [happenings, supplied] at hmem
    split at hmem
    next name' hname =>
      simp at hmem
      obtain ⟨hcontent, rfl⟩ := hmem
      exact ⟨hname, hcontent⟩
    next => cases hmem
  | guest =>
    simp only [happenings, called] at hmem
    split at hmem
    next call hcall =>
      unfold reported at hmem
      split at hmem
      · split at hmem <;> simp at hmem
      · cases hmem
    next => cases hmem

theorem mem_history_succ {happening : Happening} {budget : Nat} (hmem : happening ∈ history h (budget + 1) turn s) :
    happening ∈ happenings h turn s ∨
      ∃ turn' s', takeTurn h turn s = .ok (some turn') s' ∧ happening ∈ history h budget turn' s' := by
  rw [history, List.mem_append] at hmem
  rcases hmem with hmem | hmem
  · exact Or.inl hmem
  · split at hmem
    next turn' s' hturn => exact Or.inr ⟨turn', s', hturn, hmem⟩
    next => cases hmem

/-- **What is known is neither missed nor fetched,** whatever the guest does, as long as it is
not being waited for. -/
theorem not_mem_history_of_knows (hknows : s.desk.Knows name) (hpending : s.suspension.pending ≠ some name)
    (budget : Nat) (turn : Turn) :
    .missed name ∉ history h budget turn s ∧ ∀ content, .fetched name content ∉ history h budget turn s := by
  induction budget generalizing turn s with
  | zero => exact ⟨List.not_mem_nil, fun _ => List.not_mem_nil⟩
  | succ budget ih =>
    -- after a turn the name is still known, and still not waited for
    have hnext {turn' s'} (hturn : takeTurn h turn s = .ok (some turn') s') :=
      ih ((grows_takeTurn hturn).knows hknows)
        (fun hname => (pending_of_takeTurn hturn hname).elim hpending fun hnot => hnot hknows) turn'
    refine ⟨fun hmem => ?_, fun content hmem => ?_⟩
    · rcases mem_history_succ hmem with hmem | ⟨turn', s', hturn, hmem⟩
      · exact not_knows_of_missed hmem hknows
      · exact (hnext hturn).1 hmem
    · rcases mem_history_succ hmem with hmem | ⟨turn', s', hturn, hmem⟩
      · exact hpending (pending_of_fetched hmem).1
      · exact (hnext hturn).2 content hmem

/-- What is waited for is not stored. -/
def Waits (s : Session σ) : Prop :=
  ∀ name, s.suspension.pending = some name → s.desk.contents[name]? = none

theorem waits_takeTurn (hs : takeTurn h turn s = .ok (some turn') s') (hwaits : s.Waits) : s'.Waits := by
  intro name hname
  cases turn with
  | guest =>
    obtain ⟨-, hcontents, hmissed⟩ := served_of_takeTurn hs
    rw [hcontents]
    rcases hmissed with ⟨-, hkept⟩ | ⟨name', hmissed, hnot⟩
    · exact hwaits name (hkept ▸ hname)
    · rw [hname] at hmissed
      obtain rfl := Option.some.inj hmissed
      rw [← Option.not_isSome_iff_eq_none]
      exact fun hstored => hnot (Or.inr (Or.inl hstored))
  | host =>
    rw [pending_of_settle (settle_of_takeTurn hs)] at hname
    cases hname

/-- What is fetched under a name is what the loader has for it. -/
theorem content_of_mem_history {budget : Nat} (hwaits : s.Waits)
    (hmem : .fetched name content ∈ history h budget turn s) : h.loader.content? name = some content := by
  induction budget generalizing turn s with
  | zero => cases hmem
  | succ budget ih =>
    rcases mem_history_succ hmem with hmem | ⟨turn', s', hturn, hmem⟩
    · obtain ⟨hname, hcontent⟩ := pending_of_fetched hmem
      -- the name was not stored before the turn, so what is stored after it came from the loader
      have hnone := hwaits name hname
      rw [left_takeTurn_host] at hcontent
      rcases stocks_settle h s with hdesk | ⟨name', hname', hdesk⟩
      · rw [hdesk, hnone] at hcontent
        cases hcontent
      · rw [hname] at hname'
        obtain rfl := Option.some.inj hname'
        rw [hdesk, stocked] at hcontent
        split at hcontent
        next content' hfetched =>
          rw [Desk.insert, Std.HashMap.getElem?_insert_self] at hcontent
          rw [hfetched, hcontent]
        next =>
          rw [hnone] at hcontent
          cases hcontent
    · exact ih (waits_takeTurn hturn hwaits) hmem

end Session
end Galley
