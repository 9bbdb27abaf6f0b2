import Galley.Proofs.Session.Serving
import Galley.Proofs.Steps

/-! # Serving an open

What an open does depends on where the suspension is.  While the guest runs it gives a
handle (`openNamed_of_opened`), or it suspends the guest (`openNamed_of_missed`); the open
that a rewound guest comes back with gives a handle whatever happens
(`openNamed_of_woken`).  Whatever the guest does, an open adds to the table only, and only a
name that is not known is missed, by a guest that runs (`openNamed_cases`). -/
namespace Galley

variable {σ α β : Type}

namespace Suspension

/-- The suspension of a guest that starts to unwind. -/
def begun (s : Suspension) (name : String) : Suspension :=
  { phase := .unwinding, depth := s.depth + 1, pending := some name, count := s.count + 1 }

/-- The suspension of a guest that is out, with the name to fetch taken. -/
def slept (s : Suspension) : Suspension := { s with phase := .sleeping, pending := none }

/-- The suspension of a guest that is back at the call that missed. -/
def woken (s : Suspension) : Suspension := { s with phase := .running, depth := s.depth - 1 }

theorem begin_cases {s s' : Suspension} {name : String} (h : s.begin name = .ok s') :
    s.phase = .running ∧ s' = s.begun name := by
  rw [begin] at h
  split at h
  · exact ⟨‹_›, (Except.ok.inj h).symm⟩
  · cases h

theorem wake_cases {s s' : Suspension} (h : s.wake = .ok s') : s.phase = .sleeping ∧ s' = s.woken := by
  rw [wake] at h
  split at h
  · exact ⟨‹_›, (Except.ok.inj h).symm⟩
  · cases h

theorem sleep_cases {s s' : Suspension} {name : String} (h : s.sleep = .ok (name, s')) :
    s.phase = .unwinding ∧ s.pending = some name ∧ s' = s.slept := by
  rw [sleep] at h
  split at h
  next hphase hpending =>
    cases h
    exact ⟨hphase, hpending, rfl⟩
  next => cases h

end Suspension

namespace Serving

theorem get_bind (k : Session σ → Serving σ α) (s : Session σ) : (get >>= k) s = k s s := rfl

theorem modifyGet_bind (f : Session σ → α × Session σ) (k : α → Serving σ β) (s : Session σ) :
    (modifyGet f >>= k) s = k (f s).1 (f s).2 := rfl

theorem look_of_ok {read : Memory → Except Memory.Fault α} {s : Session σ} {a : α} (hread : read s.memory = .ok a) :
    look read s = .ok a s := by
  rw [look, hread]

theorem look_eq_ok {read : Memory → Except Memory.Fault α} {s s' : Session σ} {a : α} (hs : look read s = .ok a s') :
    read s.memory = .ok a ∧ s' = s := by
  simp only [look] at hs
  split at hs
  next hread =>
    cases hs
    exact ⟨hread, rfl⟩
  next => cases hs

theorem enter_eq_ok {h : Host σ} {e : Entry} (s : Session σ) {guest : σ}
    (hcan : h.canCall (h.guest.callsOn e.toExport)) (hguest : h.guest.enter e s.guest = .ok guest) :
    enter h e s = .ok () { s with guest } := by
  simp only [enter, hcan, hguest, if_true]

/-- Entering the guest changes nothing but the guest. -/
theorem enter_cases {h : Host σ} {e : Entry} {s s' : Session σ} (hs : enter h e s = .ok () s') :
    ∃ guest, s' = { s with guest } := by
  simp only [enter] at hs
  split at hs
  · split at hs
    · cases hs
      exact ⟨_, rfl⟩
    · cases hs
  · cases hs

/-- A transition changes nothing but the suspension. -/
theorem transition_cases {move : Suspension → Except Suspension.Refused (α × Suspension)} {s s' : Session σ}
    {a : α} (hs : transition move s = .ok a s') :
    ∃ suspension, move s.suspension = .ok (a, suspension) ∧ s' = { s with suspension } := by
  simp only [transition] at hs
  split at hs
  · cases hs
    exact ⟨_, ‹_›, rfl⟩
  · cases hs

end Serving

namespace Session
open Serving

variable {h : Host σ} {mode : Mode} {length pointer : Int32} {s s' : Session σ} {raw : ByteArray} {d : Desk}

/-! ## The four outcomes -/

theorem wakeIfSleeping_of_awake (hphase : s.suspension.phase ≠ .sleeping) :
    wakeIfSleeping h s = .ok false s := by
  rw [wakeIfSleeping, get_bind, if_neg (by simpa using hphase)]
  rfl

theorem wakeIfSleeping_of_asleep (hphase : s.suspension.phase = .sleeping) :
    wakeIfSleeping h s =
      (do enter h .stopRewind; transition (fun s => s.wake.map ((), ·)); pure true : Serving σ Bool) s := by
  rw [wakeIfSleeping, get_bind, if_pos (by simpa using hphase)]

theorem openNamed_of_fault (hphase : s.suspension.phase ≠ .sleeping) {fault : Memory.Fault}
    (hread : s.memory.read (Memory.address pointer) (Memory.address length) = .error fault) :
    openNamed h mode length pointer s = .error (.file (.memory fault)) s := by
  rw [openNamed, bind_of_ok (wakeIfSleeping_of_awake hphase)]
  simp only [bind, EStateM.bind, look, hread]

theorem openNamed_of_opened (hphase : s.suspension.phase ≠ .sleeping) {handle : Nat}
    (hread : s.memory.read (Memory.address pointer) (Memory.address length) = .ok raw)
    (hopen : s.desk.openRaw raw mode false = (.opened handle, d)) :
    openNamed h mode length pointer s = .ok (Int32.ofNat handle) { s with desk := d } := by
  rw [openNamed, bind_of_ok (wakeIfSleeping_of_awake hphase), bind_of_ok (look_of_ok hread)]
  simp only [modifyGet_bind, hopen]
  rfl

theorem suspend_eq_ok {name : String} {memory : Memory} {guest : σ} (hphase : s.suspension.phase = .running)
    (hprepare : h.control.prepare s.memory = .ok () memory)
    (hcan : h.canCall (h.guest.callsOn .startUnwind))
    (hguest : h.guest.enter (.startUnwind h.control.address) s.guest = .ok guest) :
    suspend h name s = .ok () { s with guest, memory, suspension := s.suspension.begun name } := by
  have hbegin : s.suspension.begin name = .ok (s.suspension.begun name) := by
    rw [Suspension.begin, hphase]
    rfl
  simp only [suspend, bind, EStateM.bind, onSeat, Desk.Operation.access, hprepare, transition, hbegin, Except.map]
  exact enter_eq_ok { s with memory, suspension := s.suspension.begun name } hcan hguest

theorem openNamed_of_missed (hphase : s.suspension.phase = .running) {name : String} {memory : Memory} {guest : σ}
    (hread : s.memory.read (Memory.address pointer) (Memory.address length) = .ok raw)
    (hopen : s.desk.openRaw raw mode false = (.fetch name, d))
    (hprepare : h.control.prepare s.memory = .ok () memory)
    (hcan : h.canCall (h.guest.callsOn .startUnwind))
    (hguest : h.guest.enter (.startUnwind h.control.address) s.guest = .ok guest) :
    openNamed h mode length pointer s = .ok notReady
      { s with guest, memory, desk := d, suspension := s.suspension.begun name } := by
  have hawake : s.suspension.phase ≠ .sleeping := by simp [hphase]
  have hsuspend : suspend h name { s with desk := d } = _ := suspend_eq_ok hphase hprepare hcan hguest
  rw [openNamed, bind_of_ok (wakeIfSleeping_of_awake hawake), bind_of_ok (look_of_ok hread)]
  simp only [modifyGet_bind, hopen]
  rw [bind_of_ok hsuspend]
  rfl

theorem openNamed_of_woken (hphase : s.suspension.phase = .sleeping) {handle : Nat} {guest : σ}
    (hcan : h.canCall (h.guest.callsOn .stopRewind)) (hguest : h.guest.enter .stopRewind s.guest = .ok guest)
    (hread : s.memory.read (Memory.address pointer) (Memory.address length) = .ok raw)
    (hopen : s.desk.openRaw raw mode true = (.opened handle, d)) :
    openNamed h mode length pointer s = .ok (Int32.ofNat handle)
      { s with guest, desk := d, suspension := s.suspension.woken } := by
  have hwake : s.suspension.wake = .ok s.suspension.woken := by
    rw [Suspension.wake, hphase]
    rfl
  have hwoken : wakeIfSleeping h s = .ok true { s with guest, suspension := s.suspension.woken } := by
    rw [wakeIfSleeping_of_asleep hphase]
    simp only [bind, EStateM.bind, enter_eq_ok s hcan hguest, transition, hwake, Except.map]
    rfl
  rw [openNamed, bind_of_ok hwoken, bind_of_ok (look_of_ok hread)]
  simp only [modifyGet_bind, hopen]
  rfl

/-! ## Whatever the guest does -/

theorem wakeIfSleeping_cases {resuming : Bool} (hs : wakeIfSleeping h s = .ok resuming s') :
    (resuming = false ∧ s.suspension.phase ≠ .sleeping ∧ s' = s) ∨
      (resuming = true ∧ s.suspension.phase = .sleeping ∧
        ∃ guest, s' = { s with guest, suspension := s.suspension.woken }) := by
  by_cases hphase : s.suspension.phase = .sleeping
  · rw [wakeIfSleeping_of_asleep hphase] at hs
    obtain ⟨_, t, ht, hs⟩ := bind_eq_ok hs
    obtain ⟨_, u, hu, hs⟩ := bind_eq_ok hs
    obtain ⟨guest, rfl⟩ := enter_cases ht
    obtain ⟨suspension, hwake, rfl⟩ := transition_cases hu
    cases hs
    cases hwoken : s.suspension.wake with
    | error e =>
      rw [hwoken] at hwake
      cases hwake
    | ok s'' =>
      rw [hwoken] at hwake
      cases hwake
      obtain ⟨-, rfl⟩ := Suspension.wake_cases hwoken
      exact Or.inr ⟨rfl, hphase, guest, rfl⟩
  · rw [wakeIfSleeping_of_awake hphase] at hs
    cases hs
    exact Or.inl ⟨rfl, hphase, rfl⟩

theorem suspend_cases {name : String} (hs : suspend h name s = .ok () s') :
    s.suspension.phase = .running ∧
      ∃ guest memory, s' = { s with guest, memory, suspension := s.suspension.begun name } := by
  obtain ⟨_, t, ht, hs⟩ := bind_eq_ok hs
  obtain ⟨_, u, hu, hs⟩ := bind_eq_ok hs
  obtain ⟨guest, rfl⟩ := enter_cases hs
  obtain ⟨suspension, hbegin, rfl⟩ := transition_cases hu
  have hmemory : ∃ memory, t = { s with memory } := by
    simp only [onSeat, Desk.Operation.access] at ht
    split at ht
    next hprepare =>
      split at hprepare
      · cases hprepare
        cases ht
        exact ⟨_, rfl⟩
      · cases hprepare
    next => cases ht
  obtain ⟨memory, rfl⟩ := hmemory
  cases hbegun : s.suspension.begin name with
  | error e =>
    rw [hbegun] at hbegin
    cases hbegin
  | ok s'' =>
    rw [hbegun] at hbegin
    cases hbegin
    obtain ⟨hphase, rfl⟩ := Suspension.begin_cases hbegun
    exact ⟨hphase, guest, memory, rfl⟩

/-- What an open has done that returned: it put a file into the table, and ended a rewind if
there was one; or it missed a name that was not known, while the guest was running. -/
inductive OpenReply (mode : Mode) (s : Session σ) : Session σ → Prop where
  | opened (f : OpenFile) (guest : σ) (hphase : s.suspension.phase ≠ .sleeping) :
      OpenReply mode s { s with guest, desk := (s.desk.push f).2 }
  | woken (f : OpenFile) (guest : σ) (hphase : s.suspension.phase = .sleeping) :
      OpenReply mode s { s with guest, suspension := s.suspension.woken, desk := (s.desk.push f).2 }
  | missed (name : String) (guest : σ) (memory : Memory) (hmode : mode = .read)
      (hphase : s.suspension.phase = .running) (hnot : ¬ s.desk.Knows name) :
      OpenReply mode s { s with guest, memory, suspension := s.suspension.begun name }

theorem openNamed_cases {r : Int32} (hs : openNamed h mode length pointer s = .ok r s') : OpenReply mode s s' := by
  obtain ⟨resuming, t, ht, hlook⟩ := bind_eq_ok hs
  obtain ⟨raw, u, hu, hopen⟩ := bind_eq_ok hlook
  obtain ⟨outcome, v, hv, hrest⟩ := bind_eq_ok hopen
  obtain ⟨-, rfl⟩ := look_eq_ok hu
  obtain ⟨rfl, rfl⟩ : outcome = (u.desk.openRaw raw mode resuming).1 ∧
      v = { u with desk := (u.desk.openRaw raw mode resuming).2 } := by
    cases hv
    exact ⟨rfl, rfl⟩
  -- the desk decides: a name has to be fetched only where no rewind is being ended
  rcases u.desk.openRaw_cases raw mode resuming with ⟨f, hpush⟩ | ⟨name, -, hfetch, hmode, hresuming, hnot⟩
  · rw [hpush] at hrest
    cases hrest
    rcases wakeIfSleeping_cases ht with ⟨-, hphase, rfl⟩ | ⟨-, hphase, guest, rfl⟩
    · exact .opened f u.guest hphase
    · exact .woken f guest hphase
  · rw [hfetch] at hrest
    obtain ⟨_, w, hw, hlast⟩ := bind_eq_ok hrest
    cases hlast
    obtain ⟨hphase, guest, memory, rfl⟩ := suspend_cases hw
    rcases wakeIfSleeping_cases ht with ⟨-, -, rfl⟩ | ⟨hwoken, -⟩
    · exact .missed name guest memory hmode hphase hnot
    · cases hwoken.symm.trans hresuming

/-- A call was served: what was on the desk is still there, nothing was stored, and either
the suspension was left as it was, or a name was missed that was not known. -/
structure Served (s s' : Session σ) : Prop where
  grows : s.desk.Grows s'.desk
  contents : s'.desk.contents = s.desk.contents
  missed : (s'.suspension.count = s.suspension.count ∧ s'.suspension.pending = s.suspension.pending) ∨
    ∃ name, s'.suspension.pending = some name ∧ ¬ s.desk.Knows name

theorem served_of_openNamed {r : Int32} (hs : openNamed h mode length pointer s = .ok r s') : Served s s' := by
  cases openNamed_cases hs with
  | opened f guest hphase => exact ⟨s.desk.grows_push f, rfl, Or.inl ⟨rfl, rfl⟩⟩
  | woken f guest hphase => exact ⟨s.desk.grows_push f, rfl, Or.inl ⟨rfl, rfl⟩⟩
  | missed name guest memory hmode hphase hnot => exact ⟨.refl _, rfl, Or.inr ⟨name, rfl, hnot⟩⟩

end Session
end Galley
