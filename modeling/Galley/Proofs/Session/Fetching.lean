import Galley.Proofs.Session.Asking

/-! # Fetch discipline

The log of a session is `Disciplined`: its handovers account for all that the store is asked
for; what is handed to the loader is no scratch file, was not among the files and had not been
opened, and is not handed over again once it could be had; a miss is answered before the next
one, which is to say that its name was handed over and the open has returned at which the guest
came back; and each fetch asks the store for two names at most.  The invariant behind it,
`Kept`, relates a session to its log so far, and every turn keeps it (`Kept.step`). -/
namespace Galley

variable {σ : Type}

/-! ## Files that have been opened -/

namespace Desk

/-- A file has been opened under the name, and the open succeeded. -/
def HasOpened (d : Desk) (name : String) : Prop := ∃ mode, some (name, mode, true) ∈ d.tags

variable {d d' : Desk} {name : String}

theorem Grows.hasOpened (h : d.Grows d') (hopened : d.HasOpened name) : d'.HasOpened name :=
  hopened.imp fun _ htag => h.tags htag

theorem not_hasOpened_of_not_knows (h : ¬ d.Knows name) : ¬ d.HasOpened name :=
  fun hopened => h (Or.inr (Or.inr (Or.inl hopened)))

theorem getElem?_of_not_knows (h : ¬ d.Knows name) : d.contents[name]? = none :=
  Option.not_isSome_iff_eq_none.mp fun hstored => h (Or.inr (Or.inl hstored))

theorem not_scratch_of_not_knows (h : ¬ d.Knows name) : FileName.isScratch name = false :=
  Bool.eq_false_iff.mpr fun hscratch => h (Or.inr (Or.inr (Or.inr hscratch)))

end Desk

/-! ## The discipline -/

/-- The name that is handed over after these notices was missed, and was neither stored nor
opened before.  Since then the guest was to unwind; if it opened nothing on its way, then at
the handover the name has still not been opened. -/
structure Handover.Missed (past : List Notice) (x : Handover) : Prop where
  stored : x.desk.contents[x.name]? = none
  missed : ∃ earlier d between, past = earlier ++ .missed x.name d :: between ∧
    (∀ n ∈ between, n.isReturned = true) ∧ d.contents[x.name]? = none ∧ ¬ d.HasOpened x.name ∧
    (∀ call phase d', .returned call phase d' ∈ earlier → ¬ d'.HasOpened x.name) ∧
    ((∀ n ∈ between, n.isOpened = false) → ¬ x.desk.HasOpened x.name)

/-- What follows a miss of the name when the open that missed it has been completed: calls return
that the guest makes on its way out, the name is handed over, calls return that open nothing,
and then the open returns that ends the rewind. -/
inductive Answered (name : String) : List Notice → Prop where
  | intro {unwinding rewinding rest : List Notice} {x : Handover} {n : Notice} (hname : x.name = name)
      (hout : ∀ m ∈ unwinding, m.isReturned = true)
      (hback : ∀ m ∈ rewinding, m.isReturned = true ∧ m.isOpened = false) (hends : n.endsRewind = true) :
      Answered name (unwinding ++ .handed x :: (rewinding ++ n :: rest))

theorem Answered.append {name : String} {l : List Notice} (ha : Answered name l) (l' : List Notice) :
    Answered name (l ++ l') := by
  obtain ⟨hname, hout, hback, hends⟩ := ha
  simp only [List.append_assoc, List.cons_append]
  exact ⟨hname, hout, hback, hends⟩

/-- What the loader is asked for, and when, in a log that leads from the names asked for `first`
to those asked for `last`. -/
structure Disciplined (loader : Loader) (first : Array String) (l : List Notice) (last : Array String) : Prop where
  /-- The handovers account for all that the store is asked for. -/
  chained : Chained loader first l last
  /-- No scratch file is handed over. -/
  scratch : ∀ {x}, .handed x ∈ l → FileName.isScratch x.name = false
  /-- What is handed over was missed, and not there. -/
  missed : ∀ {past x future}, l = past ++ .handed x :: future → x.Missed past
  /-- What is stored then is what the loader has. -/
  loaded : ∀ {x}, .handed x ∈ l → x.content = loader.content? x.name
  /-- What could be had once is not handed over again. -/
  once : ∀ {past x future}, l = past ++ .handed x :: future → x.content.isSome →
    ∀ {y}, .handed y ∈ future → y.name ≠ x.name
  /-- An open that misses is completed before the next miss, and does not miss again. -/
  single : ∀ {past name d between name' d' future},
    l = (past ++ .missed name d :: between) ++ .missed name' d' :: future → Answered name between
  /-- Each handover makes the store see one place of the file, or two. -/
  asked : ∀ {x}, .handed x ∈ l → ∃ names, x.askedAfter = x.asked ++ names ∧ 0 < names.size ∧ names.size ≤ 2 ∧
    names.toList <+: loader.filePlaces x.name

namespace Session

/-! ## The invariant -/

/-- The name was missed in a log that ends with the session: nothing has been stored since, and
only calls that the guest made while it was to unwind have returned. -/
structure Awaits (l : List Notice) (s : Session σ) (name : String) (earlier : List Notice) (d : Desk)
    (between : List Notice) : Prop where
  log : l = earlier ++ .missed name d :: between
  returned : ∀ n ∈ between, n.isReturned = true
  unknown : ¬ d.Knows name
  contents : s.desk.contents = d.contents
  earlier : ∀ {call phase d'}, .returned call phase d' ∈ earlier → d'.Grows d
  tags : (∀ n ∈ between, n.isOpened = false) → s.desk.tags = d.tags

/-- How far a guest has come that missed the name. -/
inductive Pursued (v : Suspension) (name : String) : List Notice → Prop where
  | unwinding {between : List Notice} (hphase : v.phase = .unwinding) (hpending : v.pending = some name)
      (hout : ∀ m ∈ between, m.isReturned = true) : Pursued v name between
  | rewinding {unwinding rewinding : List Notice} {x : Handover} (hphase : v.phase = .sleeping) (hname : x.name = name)
      (hout : ∀ m ∈ unwinding, m.isReturned = true)
      (hback : ∀ m ∈ rewinding, m.isReturned = true ∧ m.isOpened = false) :
      Pursued v name (unwinding ++ .handed x :: rewinding)
  | answered {between : List Notice} (h : Answered name between) : Pursued v name between

/-- What holds of a session and its log so far. -/
structure Kept (l : List Notice) (s : Session σ) : Prop where
  grown : ∀ {call phase d}, .returned call phase d ∈ l → d.Grows s.desk
  /-- What could be had is stored. -/
  stored : ∀ {x}, .handed x ∈ l → x.content.isSome → s.desk.contents[x.name]?.isSome
  /-- Every suspension has been answered by a handover, but for the one under way. -/
  count : s.suspension.count = l.countP Notice.isHanded + if s.suspension.phase = .unwinding then 1 else 0
  awaits : ∀ {name}, s.suspension.pending = some name → ∃ earlier d between, Awaits l s name earlier d between
  /-- Every miss is on its way to be answered. -/
  pursued : ∀ {earlier name d between}, l = earlier ++ .missed name d :: between → Pursued s.suspension name between

variable {h : Host σ} {turn turn' : Turn} {s s' : Session σ} {l l' : List Notice}

/-- A session in which nothing is outstanding and nothing has been. -/
theorem Kept.start (hsuspension : s.suspension = .initial) : Kept [] s where
  grown h := by cases h
  stored h := by cases h
  count := by rw [hsuspension]; rfl
  awaits h := by
    rw [hsuspension] at h
    cases h
  pursued h := by simp at h

theorem concat_eq_append_cons {α : Type} {l earlier between : List α} {n m : α}
    (h : l ++ [n] = earlier ++ m :: between) :
    (l = earlier ∧ n = m ∧ between = []) ∨ ∃ between', between = between' ++ [n] ∧ l = earlier ++ m :: between' := by
  rcases List.eq_nil_or_concat between with rfl | ⟨between', n', rfl⟩
  · obtain ⟨rfl, hn⟩ := List.append_inj' h rfl
    exact Or.inl ⟨rfl, List.singleton_inj.mp hn, rfl⟩
  · rw [List.concat_eq_append, ← List.cons_append, ← List.append_assoc] at h
    obtain ⟨rfl, hn⟩ := List.append_inj' h rfl
    exact Or.inr ⟨between', by rw [List.concat_eq_append, List.singleton_inj.mp hn], rfl⟩

/-- Of a guest that runs every miss has been answered. -/
theorem Pursued.answered_of_running {v : Suspension} {name : String} (hp : Pursued v name l)
    (hphase : v.phase = .running) : Answered name l := by
  cases hp with
  | unwinding hphase' => cases hphase.symm.trans hphase'
  | rewinding hphase' => cases hphase.symm.trans hphase'
  | answered h => exact h

/-- A call returns, and if it is an open that was made while the guest slept then it ends the
rewind. -/
theorem Pursued.returned {v v' : Suspension} {name : String} (hp : Pursued v name l) (call : Call Int32) (d : Desk)
    (hunwinding : v.phase = .unwinding → v'.phase = .unwinding) (hpending : v'.pending = v.pending)
    (hphase : call.isOpen = false → v'.phase = v.phase) : Pursued v' name (l ++ [.returned call v.phase d]) := by
  cases hp with
  | unwinding hgoing hname hout =>
    have hout' : ∀ m ∈ l ++ [.returned call v.phase d], m.isReturned = true :=
      List.forall_mem_append.mpr ⟨hout, List.forall_mem_singleton.mpr rfl⟩
    exact .unwinding (hunwinding hgoing) (hpending.trans hname) hout'
  | @rewinding unwinding rewinding x hsleeping hname hout hback =>
    rw [List.append_assoc, List.cons_append]
    cases hopen : call.isOpen with
    | true =>
      refine .answered ⟨hname, hout, hback, ?_⟩
      rw [Notice.endsRewind, hopen, hsleeping]
      rfl
    | false =>
      have hback' : ∀ m ∈ rewinding ++ [.returned call v.phase d], m.isReturned = true ∧ m.isOpened = false :=
        List.forall_mem_append.mpr ⟨hback, List.forall_mem_singleton.mpr ⟨rfl, hopen⟩⟩
      exact .rewinding ((hphase hopen).trans hsleeping) hname hout hback'
  | answered h => exact .answered (h.append _)

/-- The name that the guest waits for is handed over. -/
theorem Pursued.handed {v : Suspension} {name : String} (hp : Pursued v name l) {x : Handover}
    (hphase : v.phase = .unwinding) (hpending : v.pending = some x.name) :
    Pursued v.slept name (l ++ [.handed x]) := by
  cases hp with
  | unwinding _ hname hout =>
    exact .rewinding rfl (Option.some.inj (hpending.symm.trans hname)) hout (List.forall_mem_nil _)
  | rewinding hsleeping => cases hphase.symm.trans hsleeping
  | answered h => exact .answered (h.append _)

/-- A call returns while a name is waited for. -/
theorem Awaits.returned_call {name : String} {earlier between : List Notice} {d : Desk}
    (ha : Awaits l s name earlier d between) {call : Call Int32} (hcontents : s'.desk.contents = s.desk.contents)
    {phase : Phase} (htags : call.isOpen = false → s'.desk.tags = s.desk.tags) :
    Awaits (l ++ [.returned call phase s'.desk]) s' name earlier d (between ++ [.returned call phase s'.desk]) where
  log := by rw [ha.log, List.append_assoc, List.cons_append]
  returned := List.forall_mem_append.mpr ⟨ha.returned, List.forall_mem_singleton.mpr rfl⟩
  unknown := ha.unknown
  contents := hcontents.trans ha.contents
  earlier := ha.earlier
  tags hquiet := by
    have hcall := hquiet _ (List.mem_append_right _ (List.mem_singleton_self _))
    exact (htags hcall).trans (ha.tags fun n hn => hquiet n (List.mem_append_left _ hn))

/-- A call returns, and the phase changes only if it is an open that ends a rewind. -/
theorem Kept.returned (hk : Kept l s) (s' : Session σ) {call : Call Int32} (hgrows : s.desk.Grows s'.desk)
    (hcontents : s'.desk.contents = s.desk.contents) (htags : call.isOpen = false → s'.desk.tags = s.desk.tags)
    (hcount : s'.suspension.count = s.suspension.count)
    (hunwinding : s'.suspension.phase = .unwinding ↔ s.suspension.phase = .unwinding)
    (hpending : s'.suspension.pending = s.suspension.pending)
    (hphase : call.isOpen = false → s'.suspension.phase = s.suspension.phase) :
    Kept (l ++ [.returned call s.suspension.phase s'.desk]) s' where
  grown {call' phase d} hmem := by
    rcases List.mem_append.mp hmem with hmem | hmem
    · exact (hk.grown hmem).trans hgrows
    · cases List.mem_singleton.mp hmem
      exact .refl _
  stored {x} hmem hsome := by
    rcases List.mem_append.mp hmem with hmem | hmem
    · exact hgrows.contents (hk.stored hmem hsome)
    · cases List.mem_singleton.mp hmem
  count := by
    rw [hcount, hk.count, List.countP_append]
    simp [hunwinding, Notice.isHanded]
  awaits {name} hname := by
    obtain ⟨earlier, d, between, ha⟩ := hk.awaits (hpending ▸ hname)
    exact ⟨earlier, d, _, ha.returned_call hcontents htags⟩
  pursued {earlier name d between} hlog := by
    -- a returned call is no miss, so the miss lies before it
    rcases concat_eq_append_cons hlog with ⟨-, hn, -⟩ | ⟨between', rfl, hlog'⟩
    · cases hn
    · exact (hk.pursued hlog').returned call s'.desk hunwinding.mpr hpending hphase

/-- The guest misses a name that is not known, and is to unwind. -/
theorem Kept.missed (hk : Kept l s) {name : String} (s' : Session σ) (hdesk : s'.desk = s.desk)
    (hsuspension : s'.suspension = s.suspension.begun name) (hphase : s.suspension.phase = .running)
    (hunknown : ¬ s.desk.Knows name) : Kept (l ++ [.missed name s.desk]) s' where
  grown hmem := by
    rw [hdesk]
    rcases List.mem_append.mp hmem with hmem | hmem
    · exact hk.grown hmem
    · cases List.mem_singleton.mp hmem
  stored hmem hsome := by
    rw [hdesk]
    rcases List.mem_append.mp hmem with hmem | hmem
    · exact hk.stored hmem hsome
    · cases List.mem_singleton.mp hmem
  count := by
    have hcount := hk.count
    rw [hphase] at hcount
    rw [hsuspension, List.countP_append]
    show s.suspension.count + 1 = _
    rw [hcount]
    rfl
  awaits hname := by
    rw [hsuspension] at hname
    cases hname
    exact ⟨l, s.desk, [], rfl, nofun, hunknown, by rw [hdesk], hk.grown, fun _ => by rw [hdesk]⟩
  pursued {earlier name' d between} hlog := by
    rw [hsuspension]
    rcases concat_eq_append_cons hlog with ⟨-, hn, rfl⟩ | ⟨between', rfl, hlog'⟩
    · cases hn
      exact .unwinding rfl rfl (List.forall_mem_nil _)
    · exact .answered (((hk.pursued hlog').answered_of_running hphase).append _)

/-- The suspension under way is answered: what could be had is stored. -/
theorem Kept.handed (hk : Kept l s) {x : Handover} (s' : Session σ) (hdesk : s'.desk = stocked h x.name s.desk)
    (hsuspension : s'.suspension = s.suspension.slept) (hx : HandedOver h s x) : Kept (l ++ [.handed x]) s' where
  grown hmem := by
    have hgrows := grows_stocked h x.name s.desk
    rw [hdesk]
    rcases List.mem_append.mp hmem with hmem | hmem
    · exact (hk.grown hmem).trans hgrows
    · cases List.mem_singleton.mp hmem
  stored hmem hsome := by
    have hgrows := grows_stocked h x.name s.desk
    rw [hdesk]
    rcases List.mem_append.mp hmem with hmem | hmem
    · exact hgrows.contents (hk.stored hmem hsome)
    · cases List.mem_singleton.mp hmem
      rwa [← hx.content]
  count := by
    have hcount := hk.count
    rw [if_pos hx.phase] at hcount
    rw [hsuspension, List.countP_append]
    show s.suspension.count = _
    rw [hcount]
    rfl
  awaits hname := by
    rw [hsuspension] at hname
    cases hname
  pursued {earlier name d between} hlog := by
    rw [hsuspension]
    rcases concat_eq_append_cons hlog with ⟨-, hn, -⟩ | ⟨between', rfl, hlog'⟩
    · cases hn
    · exact (hk.pursued hlog').handed hx.phase hx.pending

/-- **Every turn keeps the invariant.** -/
theorem Kept.step (hk : Kept l s) (hturn : Turned h s l' s') : Kept (l ++ l') s' := by
  cases hturn with
  | quiet guest memory =>
    rw [List.append_nil]
    exact ⟨hk.grown, hk.stored, hk.count, fun hname => by
      obtain ⟨earlier, d, between, ha⟩ := hk.awaits hname
      exact ⟨earlier, d, between, ha.log, ha.returned, ha.unknown, ha.contents, ha.earlier, ha.tags⟩, hk.pursued⟩
  | called call guest memory desk hopen hkept =>
    exact hk.returned { s with guest, memory, desk } hkept.grows hkept.contents (fun _ => hkept.tags) rfl
      Iff.rfl rfl fun _ => rfl
  | opened call f guest memory hopen hphase =>
    exact hk.returned { s with guest, memory, desk := (s.desk.push f).2 } (s.desk.grows_push f) rfl
      (fun hnot => by rw [hopen] at hnot; cases hnot) rfl Iff.rfl rfl fun _ => rfl
  | woken call f guest memory hopen hphase =>
    refine hk.returned { s with guest, memory, suspension := s.suspension.woken, desk := (s.desk.push f).2 }
      (s.desk.grows_push f) rfl (fun hnot => by rw [hopen] at hnot; cases hnot) rfl ?_ rfl
      (fun hnot => by rw [hopen] at hnot; cases hnot)
    rw [hphase]
    simp [Suspension.woken]
  | missed name guest memory hphase hnot => exact hk.missed _ rfl rfl hphase hnot
  | handed x guest hx => exact hk.handed _ rfl rfl hx

theorem Kept.passes (hk : Kept [] s) (hpasses : Passes h turn s l turn' s') : Kept l s' := by
  induction hpasses with
  | start => exact hk
  | turn _ hturn ih => exact ih.step (turned_of_takeTurn hturn)

/-! ## The log of a session -/

theorem handedOver_of_log {budget : Nat} {past future : List Notice} {x : Handover} (hk : Kept [] s)
    (hlog : log h budget turn s = past ++ .handed x :: future) : ∃ s', Kept past s' ∧ HandedOver h s' x := by
  obtain ⟨turn', s', hpasses, hn⟩ := log_split hlog
  refine ⟨s', hk.passes hpasses, ?_⟩
  rcases tells_notices h turn' s' with hl | ⟨call, desk, hl⟩ | ⟨name, hl, -⟩ | ⟨y, hl, hy⟩
  · cases hl.symm.trans hn
  · cases hl.symm.trans hn
  · cases hl.symm.trans hn
  · cases hl.symm.trans hn
    exact hy

theorem missed_of_log {budget : Nat} {past future : List Notice} {name : String} {d : Desk} (hk : Kept [] s)
    (hlog : log h budget turn s = past ++ .missed name d :: future) :
    ∃ s' : Session σ, Kept past s' ∧ s'.suspension.phase = .running := by
  obtain ⟨turn', s', hpasses, hn⟩ := log_split hlog
  refine ⟨s', hk.passes hpasses, ?_⟩
  rcases tells_notices h turn' s' with hl | ⟨call, desk, hl⟩ | ⟨name', hl, hphase, -⟩ | ⟨y, hl, hy⟩
  · cases hl.symm.trans hn
  · cases hl.symm.trans hn
  · exact hphase
  · cases hl.symm.trans hn

theorem missed_of_handedOver {past : List Notice} {x : Handover} (hk : Kept past s) (hx : HandedOver h s x) :
    x.Missed past := by
  obtain ⟨earlier, d, between, ha⟩ := hk.awaits hx.pending
  have hstored := Desk.getElem?_of_not_knows ha.unknown
  have hunopened := Desk.not_hasOpened_of_not_knows ha.unknown
  refine ⟨?_, earlier, d, between, ha.log, ha.returned, hstored, hunopened, ?_, ?_⟩
  · rw [hx.desk, ha.contents, hstored]
  · exact fun call phase d' hmem hopened => hunopened ((ha.earlier hmem).hasOpened hopened)
  · intro hquiet
    rw [hx.desk, Desk.HasOpened, ha.tags hquiet]
    exact hunopened

/-- What is stored under a name that was missed is what the loader has for it. -/
theorem content_of_handedOver {past : List Notice} {x : Handover} (hk : Kept past s) (hx : HandedOver h s x) :
    x.content = h.loader.content? x.name := by
  obtain ⟨earlier, d, between, ha⟩ := hk.awaits hx.pending
  have hnone : s.desk.contents[x.name]? = none := by rw [ha.contents, Desk.getElem?_of_not_knows ha.unknown]
  rw [hx.content, stocked]
  split
  next content hloaded => exact (Std.HashMap.getElem?_insert_self).trans hloaded.symm
  next hloaded => exact hnone.trans hloaded.symm

/-- **The log of every session is disciplined**, whatever the guest does and however long it
runs. -/
theorem disciplined_log (h : Host σ) (budget : Nat) (turn : Turn) (hs : s.suspension = .initial) :
    Disciplined h.loader s.asked (log h budget turn s) (left (runTurns h budget turn s)).asked where
  chained := chained_runTurns h budget turn s
  scratch {x} hmem := by
    obtain ⟨past, future, hlog⟩ := List.append_of_mem hmem
    obtain ⟨s', hk, hx⟩ := handedOver_of_log (.start hs) hlog
    obtain ⟨earlier, d, between, ha⟩ := hk.awaits hx.pending
    exact Desk.not_scratch_of_not_knows ha.unknown
  missed hlog := by
    obtain ⟨s', hk, hx⟩ := handedOver_of_log (.start hs) hlog
    exact missed_of_handedOver hk hx
  loaded hmem := by
    obtain ⟨past, future, hlog⟩ := List.append_of_mem hmem
    obtain ⟨s', hk, hx⟩ := handedOver_of_log (.start hs) hlog
    exact content_of_handedOver hk hx
  once {past x future} hlog hsome {y} hmem hname := by
    obtain ⟨between, rest, rfl⟩ := List.append_of_mem hmem
    rw [← List.cons_append, ← List.append_assoc] at hlog
    obtain ⟨s', hk, hy⟩ := handedOver_of_log (.start hs) hlog
    -- what could be had is still stored at the later handover, where the name must be missing
    have hstored := hk.stored (List.mem_append_right _ (List.mem_cons_self ..)) hsome
    have hnone := (missed_of_handedOver hk hy).stored
    rw [hy.desk, hname] at hnone
    rw [hnone] at hstored
    cases hstored
  single {past name d between name' d' future} hlog := by
    -- the guest is running when it misses the second name
    obtain ⟨s', hk, hphase⟩ := missed_of_log (.start hs) hlog
    exact (hk.pursued rfl).answered_of_running hphase
  asked {x} hmem := by
    obtain ⟨past, future, hlog⟩ := List.append_of_mem hmem
    obtain ⟨s', -, hx⟩ := handedOver_of_log (.start hs) hlog
    rw [hx.askedAfter, hx.asked]
    exact h.loader.exists_asked_of_fetchOptional x.name s'.asked

/-- A run that comes to its end has handed over one name for each suspension. -/
theorem count_of_runTurns {budget : Nat} (hs : s.suspension = .initial)
    (hrun : runTurns h budget turn s = .ok () s') :
    s'.suspension.count = (log h budget turn s).countP Notice.isHanded := by
  obtain ⟨hphase, hpasses⟩ := exists_passes_of_runTurns hrun
  have hcount := ((Kept.start hs).passes hpasses).count
  rwa [hphase] at hcount

end Session
end Galley
