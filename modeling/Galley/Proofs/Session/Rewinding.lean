import Galley.Proofs.Session.Fetching
import Galley.Proofs.Session.Suspending
import Galley.Proofs.Suspension

/-! # The suspension along a run

The calls of a guest and the turns of its host change the suspension only by
transitions that are not refused (`Turned.next`), in whatever order the guest
makes its calls.  So at any moment it is what some sequence of attempts makes of
the first one (`exists_after_of_passes`), and a run that comes to its end leaves
it idle.  After a handover the guest is asleep until an open returns
(`asleep_of_passes`); a guest that leaves its main function before that has lost
its rewind, and its run ends with an error (`lost_of_passes`). -/
namespace Galley.Session
open Serving

variable {σ : Type} {h : Host σ} {turn turn' : Turn} {s s' : Session σ} {l l' : List Notice}

/-- A transition that is refused leaves the session as it was. -/
theorem refused_of_transition {a : Suspension.Attempt} {cause : Stop}
    (hs : transition (·.attempt a) s = .error cause s') :
    s' = s ∧ cause = .refused ⟨a.transition, s.suspension.phase⟩ := by
  simp only [transition] at hs
  split at hs
  · cases hs
  next e hrefused =>
    cases hs
    exact ⟨rfl, congrArg Stop.refused (Suspension.refused_eq hrefused)⟩

/-! ## Transitions -/

/-- **A turn makes one transition at most**, and none that is refused. -/
theorem Turned.next (hs : Turned h s l s') :
    s'.suspension = s.suspension ∨ ∃ a, s'.suspension = s.suspension.next a := by
  cases hs with
  | quiet guest memory => exact Or.inl rfl
  | called call guest memory desk hopen hkept => exact Or.inl rfl
  | opened call f guest memory hopen hphase => exact Or.inl rfl
  | woken call f guest memory hopen hphase =>
    exact Or.inr ⟨.wake, (Suspension.next_of_ok (Suspension.attempt_wake hphase)).symm⟩
  | missed name guest memory hphase hnot =>
    exact Or.inr ⟨.begin name, (Suspension.next_of_ok (Suspension.attempt_begin hphase)).symm⟩
  | handed x guest hx =>
    exact Or.inr ⟨.sleep, (Suspension.next_of_ok (Suspension.attempt_sleep hx.phase hx.pending)).symm⟩

theorem exists_after_of_passes (hs : s.suspension = .initial) (hpasses : Passes h turn s l turn' s') :
    ∃ attempts, s'.suspension = Suspension.initial.after attempts := by
  induction hpasses with
  | start => exact ⟨[], hs⟩
  | turn _ hturn ih =>
    obtain ⟨attempts, hafter⟩ := ih
    rcases (turned_of_takeTurn hturn).next with hsame | ⟨a, hnext⟩
    · exact ⟨attempts, hsame.trans hafter⟩
    · exact ⟨attempts ++ [a], by rw [hnext, hafter, Suspension.after_concat]⟩

/-- **A run that comes to its end leaves the suspension idle.** -/
theorem isIdle_of_runTurns {budget : Nat} (hs : s.suspension = .initial)
    (hrun : runTurns h budget turn s = .ok () s') : s'.suspension.isIdle := by
  obtain ⟨hphase, hpasses⟩ := exists_passes_of_runTurns hrun
  obtain ⟨attempts, hafter⟩ := exists_after_of_passes hs hpasses
  have hrecorded := Suspension.recorded_after attempts
  rw [← hafter] at hrecorded
  exact hrecorded.isIdle hphase

/-! ## Lost rewinds -/

/-- The log tells of a handover after which no open has returned. -/
def Rewound (l : List Notice) : Prop :=
  ∃ past x between, l = past ++ .handed x :: between ∧ ∀ n ∈ between, n.isOpened = false

theorem rewound_concat {n : Notice} (hl : Rewound (l ++ [n])) :
    (∃ x, n = .handed x) ∨ (Rewound l ∧ n.isOpened = false) := by
  obtain ⟨past, x, between, hlog, hquiet⟩ := hl
  rcases concat_eq_append_cons hlog with ⟨-, hn, -⟩ | ⟨between', rfl, hlog'⟩
  · exact Or.inl ⟨x, hn⟩
  · exact Or.inr ⟨⟨past, x, between', hlog', fun m hm => hquiet m (List.mem_append_left _ hm)⟩,
      hquiet n (List.mem_append_right _ (List.mem_singleton_self n))⟩

/-- A turn after a handover keeps the guest asleep until an open returns. -/
theorem asleep_step (ih : Rewound l → s.suspension.phase = .sleeping) (hturn : Turned h s l' s')
    (hrewound : Rewound (l ++ l')) : s'.suspension.phase = .sleeping := by
  cases hturn with
  | quiet guest memory => exact ih (List.append_nil l ▸ hrewound)
  | called call guest memory desk hopen hkept =>
    rcases rewound_concat hrewound with ⟨x, hn⟩ | ⟨hl, -⟩
    · cases hn
    · exact ih hl
  | opened call f guest memory hopen hphase | woken call f guest memory hopen hphase =>
    rcases rewound_concat hrewound with ⟨x, hn⟩ | ⟨-, hnot⟩
    · cases hn
    · cases hopen.symm.trans hnot
  | missed name guest memory hphase hnot =>
    -- only a guest that runs misses a name, and this one sleeps
    rcases rewound_concat hrewound with ⟨x, hn⟩ | ⟨hl, -⟩
    · cases hn
    · cases hphase.symm.trans (ih hl)
  | handed x guest hx => rfl

theorem asleep_of_passes (hpasses : Passes h turn s l turn' s') (hrewound : Rewound l) :
    s'.suspension.phase = .sleeping := by
  induction hpasses with
  | start =>
    obtain ⟨past, x, between, hlog, -⟩ := hrewound
    simp at hlog
  | turn _ hturn ih => exact asleep_step ih (turned_of_takeTurn hturn) hrewound

/-- Turns that lead to another session cost a part of the budget, and what is left of it is
spent from there; a smaller budget does not lead that far. -/
theorem runTurns_of_passes (hpasses : Passes h turn s l turn' s') :
    ∃ cost, (∀ budget, runTurns h (cost + budget) turn s = runTurns h budget turn' s') ∧
      ∀ budget ≤ cost, ∃ t, runTurns h budget turn s = .error .outOfFuel t := by
  induction hpasses with
  | start => exact ⟨0, fun budget => by rw [Nat.zero_add], fun budget hle => ⟨s, by rw [Nat.le_zero.mp hle]; rfl⟩⟩
  | @turn l turn' turn'' s' s'' _ hturn ih =>
    obtain ⟨cost, hrest, hshort⟩ := ih
    have hnext (budget : Nat) : runTurns h (cost + 1 + budget) turn s = runTurns h budget turn'' s'' := by
      rw [Nat.add_assoc, hrest, Nat.add_comm, runTurns_succ, hturn]
    refine ⟨cost + 1, hnext, fun budget hle => ?_⟩
    rcases Nat.lt_or_eq_of_le hle with hlt | rfl
    · exact hshort budget (Nat.le_of_lt_succ hlt)
    · exact ⟨s'', hnext 0⟩

/-- **A lost rewind ends a run with an error.**  If a guest is rewound and leaves its main
function before an open returns, then the run fails for that reason, unless the budget ends
earlier. -/
theorem lost_of_passes (hpasses : Passes h turn s l .host s') (hrewound : Rewound l) :
    ∃ cost, (∀ budget > cost, runTurns h budget turn s = .error .lostRewind s') ∧
      ∀ budget ≤ cost, ∃ t, runTurns h budget turn s = .error .outOfFuel t := by
  obtain ⟨cost, hrest, hshort⟩ := runTurns_of_passes hpasses
  refine ⟨cost, fun budget hgt => ?_, hshort⟩
  obtain ⟨n, rfl⟩ := Nat.exists_eq_add_of_lt hgt
  have hlost : takeTurn h .host s' = .error .lostRewind s' := by
    rw [takeTurn_host, settle_of_sleeping (asleep_of_passes hpasses hrewound)]
  rw [Nat.add_assoc, hrest, runTurns_succ, hlost]

/-! ## A guest that does not come back -/

/-- A guest that misses a file and goes away, and leaves its main function at once when it is
rewound, passes three turns to a lost rewind. -/
theorem Missing.passes_of_leaving {length pointer : Int32} {raw : ByteArray} {name : String}
    (hmissing : Missing h s length pointer raw name) (hruns : Runs h s)
    (hmemory : (s.stepped h.guest.step).memory = s.memory) (hcan : ∀ e, h.canCall (h.guest.callsOn e))
    {unwinding away unwound rewinding rewound : σ}
    (hunwinding : h.guest.enter (.startUnwind h.control.address) (s.stepped h.guest.step).guest = .ok unwinding)
    (haway : h.guest.resume unwinding (some notReady) = .leave away)
    (hunwound : h.guest.enter .stopUnwind away = .ok unwound)
    (hrewinding : h.guest.enter (.startRewind h.control.address) unwound = .ok rewinding)
    (hrewound : h.guest.enter .main rewinding = .ok rewound)
    (hleaves : ∀ m, (h.guest.step rewound m).move = .leave) :
    ∃ l s', Passes h .guest s l .host s' ∧ Rewound l := by
  -- the guest misses
  obtain ⟨memory, hprepare, -⟩ := ControlBlock.prepare_eq_ok hruns.room
  rw [← hmemory] at hprepare
  have hmiss := openNamed_of_missed (s := s.stepped h.guest.step) hruns.running hmissing.read hmissing.fetch hprepare
    (hcan _) hunwinding
  let gone : Session σ := ⟨away, memory, s.desk, s.suspension.begun name, s.asked⟩
  have hfirst : takeTurn h .guest s = .ok (some .host) gone := by
    rw [takeTurn_guest, perform_eq, hmissing.move]
    dsimp only
    rw [serve, map_of_ok hmiss some, answered_of_leave haway]
    rfl
  -- the host fetches the file
  obtain ⟨asked, hsettle⟩ := settle_of_unwound (s := gone) hcan rfl rfl hunwound hrewinding hrewound
  let back : Session σ := ⟨rewound, memory, stocked h name s.desk, (s.suspension.begun name).slept, asked⟩
  have hsecond : takeTurn h .host gone = .ok (some .guest) back := by rw [takeTurn_host, hsettle]
  have hhanded : ∃ x, notices h .host gone = [.handed x] := by
    rw [notices, hsecond]
    exact ⟨_, rfl⟩
  obtain ⟨x, hx⟩ := hhanded
  -- the guest leaves
  have hmove : (h.guest.step back.guest back.memory).move = .leave := hleaves memory
  have hthird : takeTurn h .guest back = .ok (some .host) (back.stepped h.guest.step) := by
    rw [takeTurn_guest, perform_eq, hmove]
  have hnothing : notices h .guest back = [] := by simp only [notices, hmove]
  refine ⟨_, _, ((Passes.start.turn hfirst).turn hsecond).turn hthird, ?_⟩
  rw [hnothing, List.append_nil]
  exact ⟨_, x, [], congrArg _ hx, List.forall_mem_nil _⟩

end Galley.Session
