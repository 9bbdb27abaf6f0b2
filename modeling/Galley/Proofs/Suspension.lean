import Galley.Proofs.Session.Opening
import Mathlib.Data.List.Induction

/-! # The suspension controller under any calls

Transitions of a suspension are tried in any order, with any names, and some are
refused.  A suspension at any time records those that were not (`Recorded`): its
depth is the number of suspensions begun less the number of wakes, which is one
when a suspension is outstanding and zero when none is, and the name that it
waits for is the last one begun with.  One step keeps this (`Recorded.step`), so
it holds after any sequence (`recorded_after`).  What is refused is what does not
fit the phase (`attempt_isOk_iff`), and leaves everything as it was. -/
namespace Galley.Suspension

/-! ## Attempts -/

/-- A transition that is tried, with the name that it is for. -/
inductive Attempt where
  | begin (name : String)
  | sleep
  | wake
  deriving DecidableEq

namespace Attempt

def transition : Attempt → Transition
  | begin _ => .begin
  | sleep => .sleep
  | wake => .wake

/-- The phase that the transition leaves. -/
def leaves : Attempt → Phase
  | begin _ => .running
  | sleep => .unwinding
  | wake => .sleeping

def name? : Attempt → Option String
  | begin name => some name
  | _ => none

end Attempt

/-- The names that suspensions were begun with. -/
def names (done : List Attempt) : List String := done.filterMap Attempt.name?

/-- Tries a transition.  A guest that is put to sleep gives the name to fetch. -/
def attempt (s : Suspension) : Attempt → Except Refused (Option String × Suspension)
  | .begin name => (s.begin name).map (none, ·)
  | .sleep => s.sleep.map fun (name, s) => (some name, s)
  | .wake => s.wake.map (none, ·)

/-- The suspension after a transition was tried. -/
def next (s : Suspension) (a : Attempt) : Suspension :=
  match s.attempt a with
  | .ok (_, s') => s'
  | .error _ => s

/-- The suspension after transitions were tried one after the other. -/
def after (s : Suspension) (attempts : List Attempt) : Suspension := attempts.foldl next s

/-- The attempts that are not refused. -/
def accepted (s : Suspension) : List Attempt → List Attempt
  | [] => []
  | a :: attempts =>
    let later := accepted (s.next a) attempts
    if (s.attempt a).isOk then a :: later else later

variable {s s' : Suspension} {a : Attempt} {done : List Attempt} {name : String} {r : Option String}

theorem exists_of_map_eq_ok {ε α β : Type} {x : Except ε α} {f : α → β} {b : β} (h : x.map f = .ok b) :
    ∃ a, x = .ok a ∧ f a = b := by
  cases x with
  | error e => cases h
  | ok a => exact ⟨a, rfl, Except.ok.inj h⟩

theorem error_of_map_eq_error {ε α β : Type} {x : Except ε α} {f : α → β} {e : ε} (h : x.map f = .error e) :
    x = .error e := by
  cases x with
  | error e' => exact congrArg Except.error (Except.error.inj h)
  | ok a => cases h

/-- What an attempt that is not refused does, and in which phase. -/
theorem attempt_cases (h : s.attempt a = .ok (r, s')) :
    (∃ name, a = .begin name ∧ s.phase = .running ∧ s' = s.begun name) ∨
      (∃ name, a = .sleep ∧ s.phase = .unwinding ∧ s.pending = some name ∧ r = some name ∧ s' = s.slept) ∨
      (a = .wake ∧ s.phase = .sleeping ∧ s' = s.woken) := by
  cases a with
  | begin name =>
    obtain ⟨t, ht, heq⟩ := exists_of_map_eq_ok h
    cases heq
    exact Or.inl ⟨name, rfl, begin_cases ht⟩
  | sleep =>
    obtain ⟨⟨name, t⟩, ht, heq⟩ := exists_of_map_eq_ok h
    cases heq
    obtain ⟨hphase, hpending, ht⟩ := sleep_cases ht
    exact Or.inr (Or.inl ⟨name, rfl, hphase, hpending, rfl, ht⟩)
  | wake =>
    obtain ⟨t, ht, heq⟩ := exists_of_map_eq_ok h
    cases heq
    exact Or.inr (Or.inr ⟨rfl, wake_cases ht⟩)

theorem attempt_begin (hphase : s.phase = .running) :
    s.attempt (.begin name) = .ok (none, s.begun name) := by
  rw [attempt, begin, hphase]
  rfl

theorem attempt_sleep (hphase : s.phase = .unwinding) (hpending : s.pending = some name) :
    s.attempt .sleep = .ok (some name, s.slept) := by
  rw [attempt, sleep, hphase, hpending]
  rfl

theorem attempt_wake (hphase : s.phase = .sleeping) : s.attempt .wake = .ok (none, s.woken) := by
  rw [attempt, wake, hphase]
  rfl

/-- A refusal names the transition and the phase. -/
theorem refused_eq {e : Refused} (h : s.attempt a = .error e) : e = ⟨a.transition, s.phase⟩ := by
  cases a with
  | begin name =>
    have hbegin : s.begin name = .error e := error_of_map_eq_error h
    rw [begin] at hbegin
    split at hbegin
    · cases hbegin
    · cases hbegin
      rfl
  | sleep =>
    have hsleep : s.sleep = .error e := error_of_map_eq_error h
    rw [sleep] at hsleep
    split at hsleep
    · cases hsleep
    · cases hsleep
      rfl
  | wake =>
    have hwake : s.wake = .error e := error_of_map_eq_error h
    rw [wake] at hwake
    split at hwake
    · cases hwake
    · cases hwake
      rfl

theorem next_of_ok (h : s.attempt a = .ok (r, s')) : s.next a = s' := by
  rw [next, h]

theorem next_of_refused {e : Refused} (h : s.attempt a = .error e) : s.next a = s := by
  rw [next, h]

/-! ## Sequences of attempts -/

theorem after_concat (s : Suspension) (attempts : List Attempt) (a : Attempt) :
    s.after (attempts ++ [a]) = (s.after attempts).next a := by
  rw [after, List.foldl_append]
  rfl

theorem accepted_concat (s : Suspension) (attempts : List Attempt) (a : Attempt) :
    s.accepted (attempts ++ [a]) =
      s.accepted attempts ++ if ((s.after attempts).attempt a).isOk then [a] else [] := by
  induction attempts generalizing s with
  | nil => rfl
  | cons b attempts ih =>
    have hafter : s.after (b :: attempts) = (s.next b).after attempts := rfl
    rw [List.cons_append, accepted, accepted, ih, hafter]
    split <;> rfl

/-- What a suspension tells of the transitions that led to it. -/
structure Recorded (done : List Attempt) (s : Suspension) : Prop where
  /-- One level for each suspension begun and not yet woken from. -/
  depth : s.depth = (names done).length - done.count .wake
  /-- There is a level exactly while a suspension is outstanding, and never a second one. -/
  level : s.depth = if s.phase = .running then 0 else 1
  /-- A name is pending exactly while the guest unwinds: the last one begun with. -/
  pending : s.pending = if s.phase = .unwinding then (names done).getLast? else none
  begun : s.phase = .unwinding → (names done).getLast?.isSome
  count : s.count = (names done).length

theorem Recorded.start : Recorded [] initial :=
  ⟨rfl, rfl, rfl, nofun, rfl⟩

theorem names_concat (done : List Attempt) (a : Attempt) :
    names (done ++ [a]) = names done ++ a.name?.toList := by
  rw [names, List.filterMap_append]
  cases a <;> rfl

theorem count_wake_concat (done : List Attempt) (a : Attempt) :
    (done ++ [a]).count .wake = done.count .wake + if a = .wake then 1 else 0 := by
  rw [List.count_append, List.count_singleton]
  simp

/-- **A transition keeps the record.** -/
theorem Recorded.step (h : Recorded done s) (hs : s.attempt a = .ok (r, s')) : Recorded (done ++ [a]) s' := by
  obtain ⟨hdepth, hlevel, hpending, -, hcount⟩ := h
  rcases attempt_cases hs with ⟨name, rfl, hphase, rfl⟩ | ⟨name, rfl, hphase, -, -, rfl⟩ | ⟨rfl, hphase, rfl⟩
  · have hnames : names (done ++ [.begin name]) = names done ++ [name] := names_concat ..
    have hwakes : (done ++ [Attempt.begin name]).count .wake = done.count .wake := count_wake_concat ..
    rw [if_pos hphase] at hlevel
    constructor
    case depth =>
      rw [hnames, hwakes, List.length_append, List.length_singleton]
      show s.depth + 1 = _
      omega
    case level =>
      show s.depth + 1 = 1
      omega
    case pending => rw [hnames, List.getLast?_concat]; rfl
    case begun => rw [hnames, List.getLast?_concat]; exact fun _ => rfl
    case count =>
      rw [hnames, List.length_append, List.length_singleton, ← hcount]
      rfl
  · have hnames : names (done ++ [.sleep]) = names done := (names_concat ..).trans (List.append_nil _)
    have hwakes : (done ++ [Attempt.sleep]).count .wake = done.count .wake := count_wake_concat ..
    rw [hphase] at hlevel
    constructor
    case depth => rw [hnames, hwakes]; exact hdepth
    case level => exact hlevel
    case pending => rfl
    case begun => nofun
    case count => rw [hnames]; exact hcount
  · have hnames : names (done ++ [.wake]) = names done := (names_concat ..).trans (List.append_nil _)
    have hwakes : (done ++ [Attempt.wake]).count .wake = done.count .wake + 1 := count_wake_concat ..
    have hlevel' : s.depth = 1 := by rw [hlevel, hphase]; rfl
    constructor
    case depth =>
      rw [hnames, hwakes]
      show s.depth - 1 = _
      omega
    case level =>
      show s.depth - 1 = 0
      omega
    case pending =>
      show s.pending = none
      rw [hpending, hphase]
      rfl
    case begun => nofun
    case count => rw [hnames]; exact hcount

/-- **After any sequence of attempts the record holds.** -/
theorem recorded_after (attempts : List Attempt) : Recorded (initial.accepted attempts) (initial.after attempts) := by
  induction attempts using List.reverseRecOn with
  | nil => exact .start
  | append_singleton attempts a ih =>
    rw [accepted_concat, after_concat]
    cases h : (initial.after attempts).attempt a with
    | error e => simpa [next_of_refused h, Except.isOk, Except.toBool] using ih
    | ok result =>
      obtain ⟨r, s'⟩ := result
      rw [next_of_ok h]
      exact ih.step h

/-- What fits the phase is not refused. -/
theorem Recorded.attempt_isOk_iff (h : Recorded done s) : (s.attempt a).isOk ↔ s.phase = a.leaves := by
  constructor
  · intro hok
    cases hs : s.attempt a with
    | error e =>
      rw [hs] at hok
      cases hok
    | ok result =>
      rcases attempt_cases hs with ⟨name, rfl, hphase, -⟩ | ⟨name, rfl, hphase, -⟩ | ⟨rfl, hphase, -⟩
      · exact hphase
      · exact hphase
      · exact hphase
  · intro hphase
    cases a with
    | begin name => rw [attempt_begin hphase]; rfl
    | sleep =>
      obtain ⟨name, hname⟩ := Option.isSome_iff_exists.mp (h.begun hphase)
      have hpending := h.pending
      rw [if_pos (show s.phase = .unwinding from hphase), hname] at hpending
      rw [attempt_sleep hphase hpending]
      rfl
    | wake => rw [attempt_wake hphase]; rfl

theorem Recorded.name_of_sleep (h : Recorded done s) (hs : s.sleep = .ok (name, s')) :
    (names done).getLast? = some name := by
  obtain ⟨hphase, hpending, -⟩ := sleep_cases hs
  rw [← hpending, h.pending, if_pos hphase]

/-- What holds of a suspension after calls of its controller, of which these were not refused. -/
structure Sound (done : List Attempt) (s : Suspension) : Prop extends Recorded done s where
  /-- A transition is refused exactly if it does not fit the phase. -/
  accepts : ∀ a, (s.attempt a).isOk ↔ s.phase = a.leaves
  /-- A refusal names what was tried in which phase, and changes nothing. -/
  refused : ∀ {a e}, s.attempt a = .error e → e = ⟨a.transition, s.phase⟩ ∧ s.next a = s
  /-- A guest that is put to sleep gives the name of the last suspension begun. -/
  slept : ∀ {name s'}, s.sleep = .ok (name, s') → (names done).getLast? = some name

/-- **The controller is sound under any calls.** -/
theorem sound_after (attempts : List Attempt) : Sound (initial.accepted attempts) (initial.after attempts) where
  toRecorded := recorded_after attempts
  accepts _ := (recorded_after attempts).attempt_isOk_iff
  refused h := ⟨refused_eq h, next_of_refused h⟩
  slept := (recorded_after attempts).name_of_sleep

/-- A suspension in which the guest runs has nothing outstanding. -/
theorem Recorded.isIdle (h : Recorded done s) (hphase : s.phase = .running) : s.isIdle := by
  have hlevel := h.level
  rw [if_pos hphase] at hlevel
  rw [Suspension.isIdle, hphase, hlevel]
  rfl

end Galley.Suspension
