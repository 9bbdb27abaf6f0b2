import Galley.Proofs.Cache.Step

/-! # Coherence of the cache and its callers

`Machine.Coherent` ties together the map from fingerprints, the queues at the slots and
the stages of the callers.  It holds of a cache without callers, every `Step` keeps it
(`Coherent.step`), and so it holds whatever the callers do and in whichever order. -/
namespace Galley
open Cache

variable {σ ε : Type}

namespace Cache

/-- The callers that queue at a slot. -/
def queueIn (c : Cache σ) (s : Nat) : List Nat := ((c.slots[s]?).map Slot.queue).getD []

theorem queueIn_leave (c : Cache σ) (s i t : Nat) :
    (c.leave s i).queueIn t = if s = t then (c.queueIn t).filter (· != i) else c.queueIn t := by
  rw [queueIn, getElem?_leave, queueIn]
  cases c.slots[t]? <;> grind

theorem size_leave (c : Cache σ) (s i : Nat) : (c.leave s i).slots.size = c.slots.size := Array.size_modify

theorem Stage.holds_of_hasTurn {stage : Stage ε} (h : stage.hasTurn = true) : stage.holds = true := by
  cases stage <;> first | rfl | cases h

/-- A document is put into a slot. -/
def fill (c : Cache σ) (s : Nat) (document : Rendered) : Cache σ :=
  c.modifySlot s fun slot => { slot with document := some document }

theorem documentIn_fill (c : Cache σ) (s t : Nat) (document : Rendered) :
    (c.fill s document).documentIn t =
      if s = t ∧ t < c.slots.size then some document else c.documentIn t := by
  rw [documentIn, fill, getElem?_modifySlot, documentIn]
  cases h : c.slots[t]? <;> grind

theorem queueIn_fill (c : Cache σ) (s t : Nat) (document : Rendered) :
    (c.fill s document).queueIn t = c.queueIn t := by
  rw [queueIn, fill, getElem?_modifySlot, queueIn]
  cases c.slots[t]? <;> grind

theorem queueIn_enqueue (c : Cache σ) {s : Nat} (hs : s < c.slots.size) (i t : Nat) :
    (c.enqueue s i).queueIn t = if s = t then c.queueIn t ++ [i] else c.queueIn t := by
  rw [queueIn, enqueue, getElem?_modifySlot, queueIn]
  cases h : c.slots[t]? <;> grind

theorem documentIn_enqueue (c : Cache σ) (s i t : Nat) : (c.enqueue s i).documentIn t = c.documentIn t := by
  rw [documentIn, enqueue, getElem?_modifySlot, documentIn]
  cases c.slots[t]? <;> grind

theorem lookup_addSlot (c : Cache σ) {f : Fingerprint} (hl : c.entries.lookup f = none) (i : Nat)
    (g : Fingerprint) :
    (c.addSlot f i).entries.lookup g = if g = f then some c.slots.size else c.entries.lookup g := by
  rw [addSlot, List.lookup_append, List.lookup_cons, List.lookup_nil]
  by_cases hg : g = f
  · rw [if_pos hg, hg, hl, BEq.rfl, Option.none_or]
  · rw [if_neg hg, beq_false_of_ne hg, Option.or_none]

theorem queueIn_addSlot (c : Cache σ) (f : Fingerprint) (i t : Nat) :
    (c.addSlot f i).queueIn t = if t = c.slots.size then [i] else c.queueIn t := by
  rw [queueIn, addSlot, Array.getElem?_push, queueIn]
  split <;> rfl

theorem documentIn_addSlot (c : Cache σ) (f : Fingerprint) (i t : Nat) :
    (c.addSlot f i).documentIn t = c.documentIn t := by
  rw [documentIn, addSlot, Array.getElem?_push, documentIn]
  split
  next h =>
    rw [h, Array.getElem?_eq_none (Nat.le_refl _)]
    rfl
  next => rfl

end Cache
namespace Machine

theorem modifyCaller_eq_some {m : Machine σ ε} {i j : Nat} {change : Caller ε → Caller ε} {c : Caller ε} :
    (m.modifyCaller i change).callers[j]? = some c ↔
      (i ≠ j ∧ m.callers[j]? = some c) ∨ (i = j ∧ ∃ d, m.callers[j]? = some d ∧ c = change d) := by
  rw [getElem?_modifyCaller]
  grind

theorem setStage_eq_some {m : Machine σ ε} {i j : Nat} {stage : Stage ε} {c : Caller ε} :
    (m.setStage i stage).callers[j]? = some c ↔
      (i ≠ j ∧ m.callers[j]? = some c) ∨
        (i = j ∧ ∃ d, m.callers[j]? = some d ∧ c = { d with stage }) :=
  modifyCaller_eq_some

/-! ## The invariant -/

/-- What holds between the map, the slots and the callers at every moment. -/
structure Coherent (m : Machine σ ε) : Prop where
  /-- The map leads to slots that are there. -/
  entry_lt : ∀ {f s}, m.cache.entries.lookup f = some s → s < m.cache.slots.size
  /-- No two fingerprints lead to one slot. -/
  entry_inj : ∀ {f g s}, m.cache.entries.lookup f = some s → m.cache.entries.lookup g = some s → f = g
  /-- The callers that queue at a slot are those that have it in hand. -/
  queued_iff : ∀ {s i : Nat}, i ∈ m.cache.queueIn s ↔
    ∃ c : Caller ε, m.callers[i]? = some c ∧ c.slot = s ∧ c.stage.holds = true
  /-- A slot that a caller has in hand is the one that its fingerprint leads to. -/
  led : ∀ {i : Nat} {c : Caller ε}, m.callers[i]? = some c → c.stage.holds = true →
    m.cache.entries.lookup c.fingerprint = some c.slot
  /-- A caller that has its turn is the first at an empty slot. -/
  first : ∀ {i : Nat} {c : Caller ε}, m.callers[i]? = some c → c.stage.hasTurn = true →
    m.cache.documentIn c.slot = none ∧ (m.cache.queueIn c.slot).head? = some i
  /-- A document lies in the slot that its fingerprint leads to. -/
  titled : ∀ {s d}, m.cache.documentIn s = some d → m.cache.entries.lookup d.fingerprint = some s
  /-- What a caller was given is of its fingerprint, and still in its slot. -/
  answered : ∀ {i : Nat} {c : Caller ε} {d : Rendered}, m.callers[i]? = some c →
    c.stage = .done (.ok d) → d.fingerprint = c.fingerprint ∧ m.cache.documentIn c.slot = some d

variable {m : Machine σ ε}

/-- A cache that nobody has called yet. -/
theorem Coherent.start (store : σ) : Coherent ({ cache := .start store, callers := #[] } : Machine σ ε) where
  entry_lt h := by cases h
  entry_inj h := by cases h
  queued_iff := by simp [queueIn, Cache.start]
  led h := by simp at h
  first h := by simp at h
  titled h := by simp [documentIn, Cache.start] at h
  answered h := by simp at h

theorem Coherent.withStore (hm : m.Coherent) (store : σ) : (m.withStore store).Coherent :=
  ⟨hm.entry_lt, hm.entry_inj, hm.queued_iff, hm.led, hm.first, hm.titled, hm.answered⟩

/-! ## Moves of one caller -/

/-- A caller that keeps its slot goes to another stage. -/
theorem Coherent.restage (hm : m.Coherent) {i : Nat} {c : Caller ε} {change : Caller ε → Caller ε}
    (hi : m.callers[i]? = some c) (hs : c.stage.holds = true)
    (hslot : (change c).slot = c.slot) (hprint : (change c).fingerprint = c.fingerprint)
    (hstage : (change c).stage.holds = true)
    (hturn : (change c).stage.hasTurn = true →
      m.cache.documentIn c.slot = none ∧ (m.cache.queueIn c.slot).head? = some i) :
    (m.modifyCaller i change).Coherent where
  entry_lt := hm.entry_lt
  entry_inj := hm.entry_inj
  queued_iff := by
    intro s j
    refine hm.queued_iff.trans ⟨?_, ?_⟩
    · rintro ⟨d, hj, hd, hholds⟩
      by_cases hij : i = j
      · subst hij
        obtain rfl := Option.some.inj (hi.symm.trans hj)
        exact ⟨_, modifyCaller_eq_some.mpr (Or.inr ⟨rfl, c, hi, rfl⟩), hslot.trans hd, hstage⟩
      · exact ⟨d, modifyCaller_eq_some.mpr (Or.inl ⟨hij, hj⟩), hd, hholds⟩
    · rintro ⟨d, hj, hd, hholds⟩
      obtain ⟨-, hold⟩ | ⟨rfl, e, hold, rfl⟩ := modifyCaller_eq_some.mp hj
      · exact ⟨d, hold, hd, hholds⟩
      · obtain rfl := Option.some.inj (hi.symm.trans hold)
        exact ⟨c, hi, hslot.symm.trans hd, hs⟩
  led := by
    intro j d hj hd
    obtain ⟨-, hj⟩ | ⟨rfl, d, hold, rfl⟩ := modifyCaller_eq_some.mp hj
    · exact hm.led hj hd
    · obtain rfl := Option.some.inj (hi.symm.trans hold)
      rw [hslot, hprint]
      exact hm.led hi hs
  first := by
    intro j d hj hd
    obtain ⟨-, hj⟩ | ⟨rfl, d, hold, rfl⟩ := modifyCaller_eq_some.mp hj
    · exact hm.first hj hd
    · obtain rfl := Option.some.inj (hi.symm.trans hold)
      rw [hslot]
      exact hturn hd
  titled := hm.titled
  answered := by
    intro j d document hj hd
    obtain ⟨-, hj⟩ | ⟨rfl, d, hold, rfl⟩ := modifyCaller_eq_some.mp hj
    · exact hm.answered hj hd
    · obtain rfl := Option.some.inj (hi.symm.trans hold)
      rw [hd] at hstage
      cases hstage

theorem head_filter_ne {l : List Nat} {i j : Nat} (h : l.head? = some j) (hne : i ≠ j) :
    (l.filter (· != i)).head? = some j := by
  cases l with
  | nil => cases h
  | cons x l => grind

/-- A caller lets go of its slot, with a document only if that is in the slot. -/
theorem Coherent.release (hm : m.Coherent) {i : Nat} {c : Caller ε} {stage : Stage ε}
    (hi : m.callers[i]? = some c) (hstage : stage.holds = false)
    (hok : ∀ d, stage = .done (.ok d) → d.fingerprint = c.fingerprint ∧ m.cache.documentIn c.slot = some d) :
    (m.release i c.slot stage).Coherent where
  entry_lt h := by
    rw [Machine.release, setStage, modifyCaller, size_leave]
    exact hm.entry_lt h
  entry_inj := hm.entry_inj
  queued_iff := by
    intro s j
    show j ∈ (m.cache.leave c.slot i).queueIn s ↔ _
    -- the queue of the slot loses just the caller that no longer has it in hand
    have hmem : j ∈ (m.cache.leave c.slot i).queueIn s ↔ j ∈ m.cache.queueIn s ∧ ¬ (c.slot = s ∧ j = i) := by
      rw [queueIn_leave]
      split <;> simp [*]
    rw [hmem, hm.queued_iff]
    constructor
    · rintro ⟨⟨d, hj, hd, hholds⟩, hnot⟩
      refine ⟨d, setStage_eq_some.mpr (Or.inl ⟨?_, hj⟩), hd, hholds⟩
      rintro rfl
      obtain rfl := Option.some.inj (hi.symm.trans hj)
      exact hnot ⟨hd, rfl⟩
    · rintro ⟨d, hj, hd, hholds⟩
      obtain ⟨hij, hj⟩ | ⟨-, e, -, rfl⟩ := setStage_eq_some.mp hj
      · exact ⟨⟨d, hj, hd, hholds⟩, fun h => hij h.2.symm⟩
      · cases hstage.symm.trans hholds
  led := by
    intro j d hj hd
    obtain ⟨-, hj⟩ | ⟨rfl, d, hj, rfl⟩ := setStage_eq_some.mp hj
    · exact hm.led hj hd
    · rw [hstage] at hd
      cases hd
  first := by
    intro j d hj hd
    obtain ⟨hne, hj⟩ | ⟨rfl, d, hj, rfl⟩ := setStage_eq_some.mp hj
    · obtain ⟨hempty, hhead⟩ := hm.first hj hd
      refine ⟨(documentIn_leave ..).trans hempty, ?_⟩
      show ((m.cache.leave c.slot i).queueIn d.slot).head? = some j
      rw [queueIn_leave]
      split
      · exact head_filter_ne hhead hne
      · exact hhead
    · cases hstage.symm.trans (Stage.holds_of_hasTurn hd)
  titled := by
    intro s d h
    exact hm.titled (by rwa [← documentIn_leave])
  answered := by
    intro j d document hj hd
    obtain ⟨-, hj⟩ | ⟨rfl, d, hold, rfl⟩ := setStage_eq_some.mp hj
    · have h := hm.answered hj hd
      exact ⟨h.1, (documentIn_leave ..).trans h.2⟩
    · obtain rfl := Option.some.inj (hi.symm.trans hold)
      have h := hok document hd
      exact ⟨h.1, (documentIn_leave ..).trans h.2⟩

/-! ## Changes of the cache -/

/-- A document is put into the slot of its fingerprint, where nobody has its turn. -/
theorem Coherent.fill (hm : m.Coherent) {s : Nat} {document : Rendered}
    (hl : m.cache.entries.lookup document.fingerprint = some s) (hd : m.cache.documentIn s = none)
    (hturn : ∀ {i : Nat} {c : Caller ε}, m.callers[i]? = some c → c.stage.hasTurn = true → c.slot ≠ s) :
    ({ m with cache := m.cache.fill s document } : Machine σ ε).Coherent where
  entry_lt h := by
    rw [Cache.fill, modifySlot, Array.size_modify]
    exact hm.entry_lt h
  entry_inj := hm.entry_inj
  queued_iff := by
    intro t i
    rw [queueIn_fill]
    exact hm.queued_iff
  led := hm.led
  first := by
    intro i c hi hs
    rw [queueIn_fill, documentIn_fill, if_neg fun h => hturn hi hs h.1.symm]
    exact hm.first hi hs
  titled := by
    intro t d h
    rw [documentIn_fill] at h
    split at h
    next hst =>
      obtain rfl := Option.some.inj h
      rw [← hst.1]
      exact hl
    next => exact hm.titled h
  answered := by
    intro i c d hi hs
    have hold := hm.answered hi hs
    refine ⟨hold.1, ?_⟩
    rw [documentIn_fill, if_neg, hold.2]
    rintro ⟨rfl, -⟩
    rw [hd] at hold
    cases hold.2

/-- A fingerprint goes out of the map if its slot is empty and nobody has it in hand. -/
theorem Coherent.discard (hm : m.Coherent) (f : Fingerprint) (s : Nat) :
    ({ m with cache := m.cache.discard f s } : Machine σ ε).Coherent := by
  obtain hsame | ⟨slot, hl, hslot, hempty, hqueue, hgone⟩ := discard_cases m.cache f s
  · rw [hsame]
    exact hm
  rw [hgone]
  have hlookup {g : Fingerprint} {t : Nat}
      (h : (m.cache.entries.filter fun e => e.1 != f).lookup g = some t) :
      m.cache.entries.lookup g = some t := by
    rw [lookup_filter_ne] at h
    grind
  have hkeep {g : Fingerprint} {t : Nat} (h : m.cache.entries.lookup g = some t) (hne : g ≠ f) :
      (m.cache.entries.filter fun e => e.1 != f).lookup g = some t := by
    rw [lookup_filter_ne, if_neg hne, h]
  refine ⟨fun h => hm.entry_lt (hlookup h), fun h h' => hm.entry_inj (hlookup h) (hlookup h'),
    hm.queued_iff, ?_, hm.first, ?_, hm.answered⟩
  · intro i c hi hs
    refine hkeep (hm.led hi hs) ?_
    rintro rfl
    -- whoever had the slot in hand would be in its queue, which is empty
    have hslots : s = c.slot := Option.some.inj (hl.symm.trans (hm.led hi hs))
    have hqueued : i ∈ m.cache.queueIn s := hm.queued_iff.mpr ⟨c, hi, hslots.symm, hs⟩
    rw [queueIn, hslot, Option.map_some, Option.getD_some, hqueue] at hqueued
    cases hqueued
  · intro t d hd
    refine hkeep (hm.titled hd) ?_
    rintro rfl
    obtain rfl : s = t := Option.some.inj (hl.symm.trans (hm.titled hd))
    have hnone : m.cache.documentIn s = none := by rw [documentIn, hslot, Option.bind_some, hempty]
    cases hnone.symm.trans hd

/-! ## New callers -/

theorem arrive_eq_some {cache : Cache σ} {f : Fingerprint} {outcome : Thunk (Except ε String)} {slot : Nat}
    {stage : Stage ε} {j : Nat} {c : Caller ε} :
    (m.arrive cache f outcome slot stage).callers[j]? = some c ↔
      m.callers[j]? = some c ∨
        (j = m.callers.size ∧ c = { fingerprint := f, outcome, slot, stage, ran := false }) := by
  rw [arrive, Array.getElem?_push]
  have hnone : m.callers[m.callers.size]? = none := by simp
  grind

/-- Who has a slot in hand after an arrival. -/
theorem exists_arrive_iff (hm : m.Coherent) {cache : Cache σ} {f : Fingerprint}
    {outcome : Thunk (Except ε String)} {slot : Nat} {stage : Stage ε} {s i : Nat} :
    (∃ c, (m.arrive cache f outcome slot stage).callers[i]? = some c ∧ c.slot = s ∧ c.stage.holds = true) ↔
      i ∈ m.cache.queueIn s ∨ (i = m.callers.size ∧ slot = s ∧ stage.holds = true) := by
  simp only [arrive_eq_some, hm.queued_iff]
  constructor
  · rintro ⟨c, hold | ⟨rfl, rfl⟩, hs⟩
    · exact Or.inl ⟨c, hold, hs⟩
    · exact Or.inr ⟨rfl, hs⟩
  · rintro (⟨c, hold, hs⟩ | ⟨rfl, hs⟩)
    · exact ⟨c, Or.inl hold, hs⟩
    · exact ⟨_, Or.inr ⟨rfl, rfl⟩, hs⟩

theorem Coherent.hit (hm : m.Coherent) {f : Fingerprint} {outcome : Thunk (Except ε String)} {slot : Nat}
    {document : Rendered} (hl : m.cache.entries.lookup f = some slot)
    (hd : m.cache.documentIn slot = some document) :
    (m.arrive m.cache f outcome slot (.done (.ok document))).Coherent where
  entry_lt := hm.entry_lt
  entry_inj := hm.entry_inj
  queued_iff := by
    intro s i
    rw [exists_arrive_iff hm]
    simp [arrive, Stage.holds]
  led := by
    intro i c hi hs
    obtain hi | ⟨-, rfl⟩ := arrive_eq_some.mp hi
    · exact hm.led hi hs
    · cases hs
  first := by
    intro i c hi hs
    obtain hi | ⟨-, rfl⟩ := arrive_eq_some.mp hi
    · exact hm.first hi hs
    · cases hs
  titled := hm.titled
  answered := by
    intro i c d hi hs
    obtain hi | ⟨-, rfl⟩ := arrive_eq_some.mp hi
    · exact hm.answered hi hs
    · cases hs
      exact ⟨hm.entry_inj (hm.titled hd) hl, hd⟩

theorem Coherent.join (hm : m.Coherent) {f : Fingerprint} {outcome : Thunk (Except ε String)} {slot : Nat}
    (hl : m.cache.entries.lookup f = some slot) :
    (m.arrive (m.cache.enqueue slot m.callers.size) f outcome slot .waiting).Coherent where
  entry_lt h := by
    rw [arrive, enqueue, modifySlot, Array.size_modify]
    exact hm.entry_lt h
  entry_inj := hm.entry_inj
  queued_iff := by
    intro s i
    rw [exists_arrive_iff hm, arrive, queueIn_enqueue _ (hm.entry_lt hl)]
    grind [Stage.holds]
  led := by
    intro i c hi hs
    obtain hi | ⟨-, rfl⟩ := arrive_eq_some.mp hi
    · exact hm.led hi hs
    · exact hl
  first := by
    intro i c hi hs
    obtain hi | ⟨-, rfl⟩ := arrive_eq_some.mp hi
    · obtain ⟨hempty, hhead⟩ := hm.first hi hs
      refine ⟨(documentIn_enqueue ..).trans hempty, ?_⟩
      rw [arrive, queueIn_enqueue _ (hm.entry_lt hl)]
      split
      · rw [List.head?_append, hhead, Option.some_or]
      · exact hhead
    · cases hs
  titled := by
    intro s d h
    exact hm.titled (by rwa [arrive, documentIn_enqueue] at h)
  answered := by
    intro i c d hi hs
    obtain hi | ⟨-, rfl⟩ := arrive_eq_some.mp hi
    · have hold := hm.answered hi hs
      exact ⟨hold.1, (documentIn_enqueue ..).trans hold.2⟩
    · cases hs

theorem Coherent.begin (hm : m.Coherent) {f : Fingerprint} {outcome : Thunk (Except ε String)}
    (hl : m.cache.entries.lookup f = none) :
    (m.arrive (m.cache.addSlot f m.callers.size) f outcome m.cache.slots.size .waiting).Coherent where
  entry_lt h := by
    rw [arrive, lookup_addSlot _ hl] at h
    rw [arrive, addSlot, Array.size_push]
    split at h
    · cases h
      exact Nat.lt_succ_self _
    · exact Nat.lt_succ_of_lt (hm.entry_lt h)
  entry_inj h h' := by
    rw [arrive, lookup_addSlot _ hl] at h h'
    have hlt {g : Fingerprint} : m.cache.entries.lookup g ≠ some m.cache.slots.size :=
      fun h => Nat.lt_irrefl _ (hm.entry_lt h)
    split at h <;> split at h'
    · subst_vars; rfl
    · cases h; exact absurd h' hlt
    · cases h'; exact absurd h hlt
    · exact hm.entry_inj h h'
  queued_iff := by
    intro s i
    have hnew : m.cache.queueIn m.cache.slots.size = [] := by
      rw [queueIn, Array.getElem?_eq_none (Nat.le_refl _)]
      rfl
    rw [exists_arrive_iff hm, arrive, queueIn_addSlot]
    grind [Stage.holds]
  led := by
    intro i c hi hs
    rw [arrive, lookup_addSlot _ hl]
    obtain hi | ⟨-, rfl⟩ := arrive_eq_some.mp hi
    · have hold := hm.led hi hs
      rw [if_neg, hold]
      rintro rfl
      cases hl.symm.trans hold
    · exact if_pos rfl
  first := by
    intro i c hi hs
    obtain hi | ⟨-, rfl⟩ := arrive_eq_some.mp hi
    · have hold := hm.first hi hs
      refine ⟨(documentIn_addSlot ..).trans hold.1, ?_⟩
      have hlt := hm.entry_lt (hm.led hi (Stage.holds_of_hasTurn hs))
      rw [arrive, queueIn_addSlot, if_neg (Nat.ne_of_lt hlt), hold.2]
    · cases hs
  titled := by
    intro s d h
    rw [arrive, documentIn_addSlot] at h
    have hold := hm.titled h
    rw [arrive, lookup_addSlot _ hl, if_neg, hold]
    rintro rfl
    cases hl.symm.trans hold
  answered := by
    intro i c d hi hs
    obtain hi | ⟨-, rfl⟩ := arrive_eq_some.mp hi
    · have hold := hm.answered hi hs
      exact ⟨hold.1, (documentIn_addSlot ..).trans hold.2⟩
    · cases hs

/-! ## Callers that end their turn -/

/-- Two callers that have their turns at one slot are the same. -/
theorem Coherent.turn_unique (hm : m.Coherent) {i j : Nat} {c d : Caller ε} (hi : m.callers[i]? = some c)
    (hj : m.callers[j]? = some d) (hc : c.stage.hasTurn = true) (hd : d.stage.hasTurn = true)
    (hslot : c.slot = d.slot) : i = j := by
  have hhead := (hm.first hi hc).2
  rw [hslot, (hm.first hj hd).2] at hhead
  exact (Option.some.inj hhead).symm

theorem setStage_setStage (m : Machine σ ε) (i : Nat) (stage stage' : Stage ε) :
    (m.setStage i stage).setStage i stage' = m.setStage i stage' := by
  simp only [setStage, modifyCaller]
  congr 1
  ext1 <;> grind

/-- A caller that has its turn fills its slot and is done. -/
theorem Coherent.complete (hm : m.Coherent) {i : Nat} {c : Caller ε} (hi : m.callers[i]? = some c)
    (hs : c.stage.hasTurn = true) (markup : String) : (m.complete i c markup).Coherent := by
  have hholds := Stage.holds_of_hasTurn hs
  have hl := hm.led hi hholds
  let document : Rendered := { fingerprint := c.fingerprint, markup }
  -- the turn is given up before the slot is filled, since whoever has a turn is at an empty slot
  have hback : (m.setStage i .waiting).Coherent := hm.restage hi hholds rfl rfl rfl nofun
  have hfilled : ({ m.setStage i .waiting with cache := m.cache.fill c.slot document } : Machine σ ε).Coherent := by
    refine hback.fill hl (hm.first hi hs).1 ?_
    intro j d hj hd hslot
    obtain ⟨hne, hj⟩ | ⟨rfl, d, -, rfl⟩ := setStage_eq_some.mp hj
    · exact hne (hm.turn_unique hi hj hs hd hslot.symm)
    · cases hd
  have hi' : (m.setStage i .waiting).callers[i]? = some { c with stage := .waiting } :=
    setStage_eq_some.mpr (Or.inr ⟨rfl, c, hi, rfl⟩)
  have hstages := congrArg Machine.callers (setStage_setStage m i .waiting (.done (.ok document)))
  have heq : m.complete i c markup = ({ m.setStage i .waiting with
      cache := m.cache.fill c.slot document } : Machine σ ε).release i c.slot (.done (.ok document)) :=
    congrArg (Machine.mk ((m.cache.fill c.slot document).leave c.slot i)) hstages.symm
  rw [heq]
  refine hfilled.release (c := { c with stage := .waiting }) hi' rfl ?_
  intro d hd
  cases hd
  exact ⟨rfl, by rw [documentIn_fill, if_pos ⟨rfl, hm.entry_lt hl⟩]⟩

/-- A caller that ends with an error. -/
theorem Coherent.fail (hm : m.Coherent) {i : Nat} {c : Caller ε} (hi : m.callers[i]? = some c) (e : ε) :
    (m.fail i c e).Coherent := by
  have hreleased : (m.release i c.slot (.done (.error e))).Coherent := hm.release hi rfl nofun
  exact hreleased.discard c.fingerprint c.slot

/-! ## Every step -/

/-- **Every step keeps the cache and its callers coherent.** -/
theorem Coherent.step {b : Backing σ} {m' : Machine σ ε} (hm : m.Coherent) (h : Step b m m') :
    m'.Coherent := by
  cases h with
  | hit hl hd => exact hm.hit hl hd
  | join hl => exact hm.join hl
  | begin hl => exact hm.begin hl
  | serve hi hs hd =>
    refine hm.release hi rfl ?_
    intro d hdone
    cases hdone
    have hholds : Stage.holds (ε := ε) .waiting = true := rfl
    exact ⟨hm.entry_inj (hm.titled hd) (hm.led hi (hs ▸ hholds)), hd⟩
  | turn hi hs hslot hd hq =>
    refine hm.restage hi (by rw [hs]; rfl) rfl rfl rfl fun _ => ⟨?_, ?_⟩
    · rw [documentIn, hslot, Option.bind_some, hd]
    · rw [queueIn, hslot, Option.map_some, Option.getD_some, hq]
  | @found i c markup store hi hs hb =>
    exact (hm.withStore store).complete (i := i) hi (by rw [hs]; rfl) markup
  | missed hi hs hb =>
    exact (hm.withStore _).restage hi (by rw [hs]; rfl) rfl rfl rfl fun _ => hm.first hi (by rw [hs]; rfl)
  | rendered hi hs ho =>
    exact hm.restage hi (by rw [hs]; rfl) rfl rfl rfl fun _ => hm.first hi (by rw [hs]; rfl)
  | failed hi hs ho => exact hm.fail hi _
  | @saved i c markup hi hs =>
    exact (hm.withStore (b.save c.fingerprint markup m.cache.store)).complete (i := i) hi (by rw [hs]; rfl) markup
  | abandoned hi hs =>
    refine hm.release hi rfl ?_
    intro d hdone
    cases hdone

end Machine
end Galley
