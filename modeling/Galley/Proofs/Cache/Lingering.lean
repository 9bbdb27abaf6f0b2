import Galley.Proofs.Cache.Coalescing

/-! # Slots that outlive their callers

A slot is taken out of the map by the caller that fails last, and by nobody else.  So a slot
`lingers`, empty and held by nobody, if the last caller that held it was abandoned, until a
caller for its fingerprint comes again; that is the only way (`lingers_after_iff`).  Without
abandoned callers the map has a slot for a fingerprint that nobody is working on exactly if
its document is complete (`lookup_isSome_iff_of_no_abandon`); with them it may have more
(`lookup_isSome_iff`). -/
namespace Galley
open Cache

variable {σ ε : Type}

namespace Cache

/-! ## The slot of a fingerprint -/

/-- The slot is empty, and nobody holds it. -/
def Slot.isUnused (s : Slot) : Bool := s.document.isNone && s.queue.isEmpty

/-- The slot that a fingerprint leads to. -/
def slotOf (c : Cache σ) (f : Fingerprint) : Option Slot := (c.entries.lookup f).bind (c.slots[·]?)

/-- The map leads to a slot that is not used. -/
def lingers (c : Cache σ) (f : Fingerprint) : Bool := (c.slotOf f).any Slot.isUnused

theorem lingers_of_slotOf {c : Cache σ} {f : Fingerprint} {slot : Slot} (h : c.slotOf f = some slot) :
    c.lingers f = slot.isUnused := by
  rw [lingers, h, Option.any_some]

theorem exists_slotOf_of_lingers {c : Cache σ} {f : Fingerprint} (h : c.lingers f = true) :
    ∃ slot, c.slotOf f = some slot ∧ slot.document = none ∧ slot.queue = [] := by
  cases hslot : c.slotOf f with
  | none =>
    rw [lingers, hslot] at h
    cases h
  | some slot =>
    rw [lingers_of_slotOf hslot, Slot.isUnused, Bool.and_eq_true, Option.isNone_iff_eq_none, List.isEmpty_iff] at h
    exact ⟨slot, rfl, h⟩

theorem get_eq_slotOf (c : Cache σ) (f : Fingerprint) : c.get f = (c.slotOf f).bind Slot.document := by
  rw [Cache.get, slotOf, Option.bind_assoc]
  rfl

/-- Changing the slot of one fingerprint changes that of no other. -/
theorem slotOf_modifySlot {c : Cache σ} {g : Fingerprint} {s : Nat}
    (hinj : ∀ {f g s}, c.entries.lookup f = some s → c.entries.lookup g = some s → f = g)
    (hl : c.entries.lookup g = some s) (change : Slot → Slot) (f : Fingerprint) :
    (c.modifySlot s change).slotOf f = if f = g then (c.slotOf f).map change else c.slotOf f := by
  have hentries : (c.modifySlot s change).entries = c.entries := rfl
  rw [slotOf, slotOf, hentries]
  by_cases hf : f = g
  · rw [if_pos hf, hf, hl, Option.bind_some, Option.bind_some, getElem?_modifySlot, if_pos rfl]
  · rw [if_neg hf]
    refine Option.bind_congr fun t ht => ?_
    rw [getElem?_modifySlot, if_neg]
    rintro rfl
    exact hf (hinj ht hl)

end Cache
namespace Machine

variable {b : Backing σ} {m : Machine σ ε} {f g : Fingerprint} {s i : Nat} {c : Caller ε} {slot : Slot}

theorem Coherent.slotOf_addSlot (hm : m.Coherent) (hl : m.cache.entries.lookup g = none) (i : Nat) (f : Fingerprint) :
    (m.cache.addSlot g i).slotOf f = if f = g then some { document := none, queue := [i] } else m.cache.slotOf f := by
  rw [slotOf, lookup_addSlot _ hl]
  by_cases hf : f = g
  · rw [if_pos hf, if_pos hf, Option.bind_some, addSlot, Array.getElem?_push_size]
  · rw [if_neg hf, if_neg hf, slotOf]
    refine Option.bind_congr fun t ht => ?_
    rw [addSlot, Array.getElem?_push, if_neg (Nat.ne_of_lt (hm.entry_lt ht))]

/-- A discard takes out just the slot that is not used. -/
theorem slotOf_discard (cache : Cache σ) (hl : cache.entries.lookup g = some s) (f : Fingerprint) :
    (cache.discard g s).slotOf f =
      if f = g then (cache.slotOf f).filter (! ·.isUnused) else cache.slotOf f := by
  have hdiscard : cache.discard g s =
      if cache.lingers g = true then { cache with entries := cache.entries.filter fun e => e.1 != g } else cache := by
    rw [Cache.discard, hl, lingers, slotOf, hl, Option.bind_some, beq_self_eq_true, Bool.true_and]
    cases cache.slots[s]? <;> rfl
  rw [hdiscard]
  by_cases hlingers : cache.lingers g = true
  · have hlookup : (cache.entries.filter fun e => e.1 != g).lookup f = if f = g then none else cache.entries.lookup f :=
      lookup_filter_ne ..
    rw [if_pos hlingers, slotOf, hlookup]
    by_cases hf : f = g
    · subst hf
      obtain ⟨slot, hslot, -⟩ := exists_slotOf_of_lingers hlingers
      rw [lingers_of_slotOf hslot] at hlingers
      rw [if_pos rfl, if_pos rfl, hslot, Option.filter_some_neg (by simp [hlingers]), Option.bind_none]
    · rw [if_neg hf, if_neg hf]
      rfl
  · rw [if_neg hlingers]
    by_cases hf : f = g
    · subst hf
      rw [if_pos rfl]
      cases hslot : cache.slotOf f with
      | none => rfl
      | some slot =>
        rw [lingers_of_slotOf hslot] at hlingers
        rw [Option.filter_some_pos (by simpa using hlingers)]
    · rw [if_neg hf]

/-! ## Who holds it -/

/-- The callers in the queue of a fingerprint's slot are those that work on it. -/
theorem Coherent.mem_queue_iff (hm : m.Coherent) (hslot : m.cache.slotOf f = some slot) :
    i ∈ slot.queue ↔ ∃ c, m.callers[i]? = some c ∧ c.fingerprint = f ∧ c.stage.holds = true := by
  obtain ⟨s, hl, hs⟩ := Option.bind_eq_some_iff.mp hslot
  have hqueue : m.cache.queueIn s = slot.queue := by rw [queueIn, hs, Option.map_some, Option.getD_some]
  rw [← hqueue, hm.queued_iff]
  constructor
  · rintro ⟨c, hi, rfl, hholds⟩
    exact ⟨c, hi, hm.entry_inj (hm.led hi hholds) hl, hholds⟩
  · rintro ⟨c, hi, rfl, hholds⟩
    exact ⟨c, hi, Option.some.inj ((hm.led hi hholds).symm.trans hl), hholds⟩

/-- A caller that holds its slot is in the queue there. -/
theorem Coherent.exists_slotOf (hm : m.Coherent) (hi : m.callers[i]? = some c) (hs : c.stage.holds = true) :
    ∃ slot, m.cache.slotOf c.fingerprint = some slot ∧ i ∈ slot.queue := by
  have hl := hm.led hi hs
  have hlt : c.slot < m.cache.slots.size := hm.entry_lt hl
  have hslot : m.cache.slotOf c.fingerprint = some m.cache.slots[c.slot] := by
    rw [slotOf, hl, Option.bind_some, Array.getElem?_eq_getElem hlt]
  exact ⟨_, hslot, (hm.mem_queue_iff hslot).mpr ⟨c, hi, rfl, hs⟩⟩

/-! ## What an event does to it -/

/-- A slot that a caller holds does not linger. -/
theorem Coherent.lingers_of_holds (hm : m.Coherent) (hi : m.callers[i]? = some c) (hs : c.stage.holds = true) :
    m.cache.lingers c.fingerprint = false := by
  obtain ⟨slot, hslot, hmem⟩ := hm.exists_slotOf hi hs
  rw [lingers_of_slotOf hslot, Slot.isUnused, List.isEmpty_eq_false_iff.mpr (List.ne_nil_of_mem hmem), Bool.and_false]

theorem Coherent.lingers_complete (hm : m.Coherent) (hi : m.callers[i]? = some c) (hs : c.stage.holds = true)
    (markup : String) (f : Fingerprint) : (m.complete i c markup).cache.lingers f = m.cache.lingers f := by
  have hl := hm.led hi hs
  have hslotOf : (m.complete i c markup).cache.slotOf f = if f = c.fingerprint then
      (m.cache.slotOf f).map fun slot =>
        { document := some { fingerprint := c.fingerprint, markup }, queue := slot.queue.filter (· != i) }
      else m.cache.slotOf f := by
    let document : Rendered := { fingerprint := c.fingerprint, markup }
    have hfill : (m.cache.fill c.slot document).entries = m.cache.entries := rfl
    show ((m.cache.fill c.slot document).leave c.slot i).slotOf f = _
    rw [leave, slotOf_modifySlot (by rw [hfill]; exact hm.entry_inj) (by rw [hfill]; exact hl), Cache.fill,
      slotOf_modifySlot hm.entry_inj hl]
    split
    · rw [Option.map_map]
      rfl
    · rfl
  rw [lingers, hslotOf]
  by_cases hf : f = c.fingerprint
  · subst hf
    rw [if_pos rfl, hm.lingers_of_holds hi hs]
    cases m.cache.slotOf c.fingerprint <;> rfl
  · rw [if_neg hf]
    rfl

/-- Who leaves a slot that has a document leaves no empty one. -/
theorem Coherent.lingers_leave_of_document (hm : m.Coherent) (hi : m.callers[i]? = some c) (hs : c.stage.holds = true)
    {document : Rendered} (hd : m.cache.documentIn c.slot = some document) (f : Fingerprint) :
    (m.cache.leave c.slot i).lingers f = m.cache.lingers f := by
  have hl := hm.led hi hs
  rw [lingers, leave, slotOf_modifySlot hm.entry_inj hl]
  by_cases hf : f = c.fingerprint
  · subst hf
    obtain ⟨slot, hslot, hdocument⟩ := Option.bind_eq_some_iff.mp hd
    have hslotOf : m.cache.slotOf c.fingerprint = some slot := by rw [slotOf, hl, Option.bind_some, hslot]
    rw [if_pos rfl, lingers_of_slotOf hslotOf, hslotOf, Option.map_some, Option.any_some, Slot.isUnused, Slot.isUnused,
      hdocument]
    rfl
  · rw [if_neg hf]
    rfl

/-- The last caller that fails takes the slot out of the map. -/
theorem Coherent.lingers_fail (hm : m.Coherent) (hi : m.callers[i]? = some c) (hs : c.stage.holds = true) (e : ε)
    (f : Fingerprint) : (m.fail i c e).cache.lingers f = m.cache.lingers f := by
  have hl := hm.led hi hs
  have hleave : (m.cache.leave c.slot i).entries.lookup c.fingerprint = some c.slot := hl
  have hslotOf : (m.fail i c e).cache.slotOf f = if f = c.fingerprint then
      ((m.cache.leave c.slot i).slotOf f).filter (! ·.isUnused) else m.cache.slotOf f := by
    rw [Machine.fail, setStage, modifyCaller]
    dsimp only
    rw [slotOf_discard _ hleave]
    by_cases hf : f = c.fingerprint
    · rw [if_pos hf, if_pos hf]
    · rw [if_neg hf, if_neg hf, leave, slotOf_modifySlot hm.entry_inj hl, if_neg hf]
  rw [lingers, hslotOf]
  by_cases hf : f = c.fingerprint
  · subst hf
    rw [if_pos rfl, hm.lingers_of_holds hi hs]
    cases (m.cache.leave c.slot i).slotOf c.fingerprint with
    | none => rfl
    | some slot => cases slot.isUnused <;> simp
  · rw [if_neg hf]
    rfl

/-- An advance of a caller leaves no slot behind. -/
theorem Coherent.lingers_advance (hm : m.Coherent) (b : Backing σ) (i : Nat) (f : Fingerprint) :
    (m.advance b i).cache.lingers f = m.cache.lingers f := by
  cases hi : m.callers[i]? with
  | none => simp only [advance, hi]
  | some c =>
    have hholds {stage : Stage ε} (hs : c.stage = stage) (h : stage.holds = true) : c.stage.holds = true := hs ▸ h
    cases hs : c.stage with
    | done result => simp only [advance, hi, hs]
    | abandoned => simp only [advance, hi, hs]
    | waiting =>
      cases hslot : m.cache.slots[c.slot]? with
      | none => simp only [advance, hi, hs, await, hslot]
      | some slot =>
        cases hd : slot.document with
        | none =>
          simp only [advance, hi, hs, await, hslot, hd]
          split <;> rfl
        | some document =>
          simp only [advance, hi, hs, await, hslot, hd]
          exact hm.lingers_leave_of_document hi (hholds hs rfl) (by rw [documentIn, hslot, Option.bind_some, hd]) f
    | loading =>
      simp only [advance, hi, hs, consult]
      rcases b.load c.fingerprint m.cache.store with ⟨markup | markup, store⟩
      · rfl
      · exact (hm.withStore store).lingers_complete (i := i) hi (hholds hs rfl) markup f
    | rendering =>
      simp only [advance, hi, hs]
      cases c.outcome.get with
      | ok markup => rfl
      | error e => exact hm.lingers_fail hi (hholds hs rfl) e f
    | saving markup =>
      simp only [advance, hi, hs]
      exact (hm.withStore (b.save c.fingerprint markup m.cache.store)).lingers_complete (i := i) hi (hholds hs rfl)
        markup f

/-- A caller that comes makes use of its slot. -/
theorem Coherent.lingers_enter (hm : m.Coherent) (g : Fingerprint) (outcome : Thunk (Except ε String))
    (f : Fingerprint) : (m.enter g outcome).cache.lingers f = (m.cache.lingers f && f != g) := by
  -- whatever its slot becomes, only that of `g` changes, and that one is used
  have hused {cache : Cache σ} (hother : f ≠ g → cache.slotOf f = m.cache.slotOf f)
      (hown : (cache.slotOf g).any Slot.isUnused = false) : cache.lingers f = (m.cache.lingers f && f != g) := by
    by_cases hf : f = g
    · subst hf
      rw [lingers, hown, bne_self_eq_false, Bool.and_false]
    · rw [lingers, hother hf, bne_iff_ne.mpr hf, Bool.and_true, lingers]
  cases hl : m.cache.entries.lookup g with
  | none =>
    simp only [enter, hl]
    refine hused (fun hf => ?_) ?_
    · exact (hm.slotOf_addSlot hl _ f).trans (if_neg hf)
    · change ((m.cache.addSlot g m.callers.size).slotOf g).any Slot.isUnused = false
      rw [hm.slotOf_addSlot hl, if_pos rfl]
      rfl
  | some s =>
    have hslotOf : m.cache.slotOf g = m.cache.slots[s]? := by rw [slotOf, hl, Option.bind_some]
    cases hd : m.cache.documentIn s with
    | none =>
      simp only [enter, hl, hd]
      refine hused (fun hf => ?_) ?_
      · rw [slotOf_modifySlot hm.entry_inj hl, if_neg hf]
      · rw [slotOf_modifySlot hm.entry_inj hl, if_pos rfl]
        cases m.cache.slotOf g <;> simp [Slot.isUnused]
    | some document =>
      simp only [enter, hl, hd]
      refine hused (fun _ => rfl) ?_
      obtain ⟨slot, hslot, hdocument⟩ := Option.bind_eq_some_iff.mp hd
      rw [hslotOf, hslot, Option.any_some, Slot.isUnused, hdocument]
      rfl

/-- A caller has an empty slot to itself. -/
def HoldsAlone (m : Machine σ ε) (i : Nat) (f : Fingerprint) : Bool :=
  (m.cache.slotOf f).any fun slot => slot.document.isNone && slot.queue.contains i && slot.queue.all (· == i)

/-- A caller that has a slot to itself works on its fingerprint. -/
theorem Coherent.exists_of_holdsAlone (hm : m.Coherent) (h : m.HoldsAlone i f = true) :
    ∃ c, m.callers[i]? = some c ∧ c.fingerprint = f ∧ c.stage.holds = true := by
  rw [HoldsAlone] at h
  cases hslot : m.cache.slotOf f with
  | none =>
    rw [hslot] at h
    cases h
  | some slot =>
    rw [hslot, Option.any_some, Bool.and_eq_true, Bool.and_eq_true, List.contains_iff_mem] at h
    exact (hm.mem_queue_iff hslot).mp h.1.2

/-- A caller that is abandoned leaves a slot behind if it has it to itself. -/
theorem Coherent.lingers_abandon (hm : m.Coherent) (i : Nat) (f : Fingerprint) :
    (m.abandon i).cache.lingers f = (m.cache.lingers f || m.HoldsAlone i f) := by
  -- who works on nothing leaves nothing behind
  have hidle (habandon : m.abandon i = m) (hnot : ∀ c, m.callers[i]? = some c → c.stage.holds = false) :
      (m.abandon i).cache.lingers f = (m.cache.lingers f || m.HoldsAlone i f) := by
    have halone : m.HoldsAlone i f = false := by
      rw [Bool.eq_false_iff]
      intro h
      obtain ⟨c, hi, -, hs⟩ := hm.exists_of_holdsAlone h
      cases (hnot c hi).symm.trans hs
    rw [habandon, halone, Bool.or_false]
  cases hi : m.callers[i]? with
  | none =>
    refine hidle (by simp only [abandon, hi]) fun c hc => ?_
    cases hi.symm.trans hc
  | some c =>
    have hleaves (hs : c.stage.holds = true) (habandon : (m.abandon i).cache = m.cache.leave c.slot i) :
        (m.abandon i).cache.lingers f = (m.cache.lingers f || m.HoldsAlone i f) := by
      rw [habandon, lingers, leave, slotOf_modifySlot hm.entry_inj (hm.led hi hs)]
      by_cases hf : f = c.fingerprint
      · subst hf
        obtain ⟨slot, hslot, hmem⟩ := hm.exists_slotOf hi hs
        have halone : (slot.queue.filter (· != i)).isEmpty = slot.queue.all (· == i) := by
          rw [Bool.eq_iff_iff, List.isEmpty_iff, List.filter_eq_nil_iff, List.all_eq_true]
          simp
        rw [if_pos rfl, hm.lingers_of_holds hi hs, HoldsAlone, hslot, Option.map_some, Option.any_some, Option.any_some,
          Slot.isUnused, halone, List.contains_iff_mem.mpr hmem, Bool.and_true, Bool.false_or]
      · have hother : m.HoldsAlone i f = false := by
          rw [Bool.eq_false_iff]
          intro h
          obtain ⟨d, hd, hprint, -⟩ := hm.exists_of_holdsAlone h
          rw [hi, Option.some.injEq] at hd
          exact hf (hd ▸ hprint.symm)
        rw [if_neg hf, hother, Bool.or_false, lingers]
    have hended (habandon : m.abandon i = m) (hs : c.stage.holds = false) :
        (m.abandon i).cache.lingers f = (m.cache.lingers f || m.HoldsAlone i f) := by
      refine hidle habandon fun d hd => ?_
      rw [hi, Option.some.injEq] at hd
      rwa [← hd]
    cases hs : c.stage with
    | done result => exact hended (by simp only [abandon, hi, hs]) (by rw [hs]; rfl)
    | abandoned => exact hended (by simp only [abandon, hi, hs]) (by rw [hs]; rfl)
    | _ => exact hleaves (by rw [hs]; rfl) (by simp only [abandon, hi, hs]; rfl)

/-! ## Runs -/

/-- A caller comes for the fingerprint. -/
def Event.enters (f : Fingerprint) : Event ε → Bool
  | .enter g _ => f == g
  | _ => false

/-- The event abandons a caller that has the slot of the fingerprint to itself. -/
def Strands (m : Machine σ ε) (f : Fingerprint) : Event ε → Bool
  | .abandon i => m.HoldsAlone i f
  | _ => false

/-- **What an event does to a slot that lingers.** -/
theorem Coherent.lingers_happen (hm : m.Coherent) (b : Backing σ) (event : Event ε) (f : Fingerprint) :
    (m.happen b event).cache.lingers f = (m.cache.lingers f && !event.enters f || m.Strands f event) := by
  cases event with
  | enter g outcome =>
    change (m.enter g outcome).cache.lingers f = (m.cache.lingers f && f != g || false)
    rw [hm.lingers_enter, Bool.or_false]
  | advance i =>
    change (m.advance b i).cache.lingers f = (m.cache.lingers f && true || false)
    rw [hm.lingers_advance, Bool.and_true, Bool.or_false]
  | abandon i =>
    change (m.abandon i).cache.lingers f = (m.cache.lingers f && true || m.HoldsAlone i f)
    rw [hm.lingers_abandon, Bool.and_true]

/-- Some caller was abandoned that had the slot of the fingerprint to itself, and none has come
for it since. -/
def Stranded (b : Backing σ) (m : Machine σ ε) (events : List (Event ε)) (f : Fingerprint) : Prop :=
  ∃ past i future, events = past ++ .abandon i :: future ∧ (m.after b past).HoldsAlone i f = true ∧
    ∀ event ∈ future, event.enters f = false

theorem Coherent.happen (hm : m.Coherent) (b : Backing σ) (event : Event ε) : (m.happen b event).Coherent := by
  obtain hsame | hstep := happen_cases (b := b) (m := m) event
  · rw [hsame]
    exact hm
  · exact hm.step hstep

/-- **A slot lingers exactly if its last caller was abandoned**, and nobody has asked since. -/
theorem Coherent.lingers_after_iff (hm : m.Coherent) (b : Backing σ) (events : List (Event ε)) (f : Fingerprint) :
    (m.after b events).cache.lingers f = true ↔
      (m.cache.lingers f = true ∧ ∀ event ∈ events, event.enters f = false) ∨ Stranded b m events f := by
  induction events generalizing m with
  | nil =>
    constructor
    · exact fun h => Or.inl ⟨h, nofun⟩
    · rintro (⟨h, -⟩ | ⟨past, i, future, hevents, -⟩)
      · exact h
      · cases (List.append_eq_nil_iff.mp hevents.symm).2
  | cons event events ih =>
    change ((m.happen b event).after b events).cache.lingers f = true ↔ _
    rw [ih (hm.happen b event), hm.lingers_happen, Bool.or_eq_true, Bool.and_eq_true, Bool.not_eq_true',
      List.forall_mem_cons]
    constructor
    · rintro (⟨⟨hlingers, hevent⟩ | hstrands, hevents⟩ | ⟨past, i, future, rfl, halone, hfuture⟩)
      · exact Or.inl ⟨hlingers, hevent, hevents⟩
      · cases event with
        | abandon i => exact Or.inr ⟨[], i, events, rfl, hstrands, hevents⟩
        | enter g outcome => cases hstrands
        | advance i => cases hstrands
      · exact Or.inr ⟨event :: past, i, future, rfl, halone, hfuture⟩
    · rintro (⟨hlingers, hevent, hevents⟩ | ⟨past, i, future, hsplit, halone, hfuture⟩)
      · exact Or.inl ⟨Or.inl ⟨hlingers, hevent⟩, hevents⟩
      · cases past with
        | nil =>
          obtain ⟨rfl, rfl⟩ := List.cons.inj hsplit
          exact Or.inl ⟨Or.inr halone, hfuture⟩
        | cons first past =>
          obtain ⟨rfl, rfl⟩ := List.cons.inj hsplit
          exact Or.inr ⟨past, i, future, rfl, halone, hfuture⟩

/-! ## What the map has -/

/-- Nobody works on the fingerprint. -/
def Idle (m : Machine σ ε) (f : Fingerprint) : Prop :=
  ∀ (i : Nat) (c : Caller ε), m.callers[i]? = some c → c.fingerprint = f → c.stage.holds = false

/-- What the map has for a fingerprint that nobody works on is its document, or lingers. -/
theorem Coherent.isSome_lookup_iff (hm : m.Coherent) (hidle : m.Idle f) :
    (m.cache.entries.lookup f).isSome = true ↔ (m.cache.get f).isSome = true ∨ m.cache.lingers f = true := by
  cases hl : m.cache.entries.lookup f with
  | none => simp [Cache.get, lingers, slotOf, hl]
  | some s =>
    have hlt : s < m.cache.slots.size := hm.entry_lt hl
    have hslot : m.cache.slotOf f = some m.cache.slots[s] := by
      rw [slotOf, hl, Option.bind_some, Array.getElem?_eq_getElem hlt]
    have hqueue : m.cache.slots[s].queue = [] := by
      refine List.eq_nil_iff_forall_not_mem.mpr fun i hi => ?_
      obtain ⟨c, hc, hprint, hs⟩ := (hm.mem_queue_iff hslot).mp hi
      cases (hidle i c hc hprint).symm.trans hs
    rw [get_eq_slotOf, lingers_of_slotOf hslot, hslot, Option.bind_some, Slot.isUnused, hqueue]
    cases m.cache.slots[s].document <;> simp

/-- **A slot outlives its callers exactly if the last of them was abandoned.**  When nobody
works on a fingerprint, the map has a slot for it if its document is complete, or a caller
that had the slot to itself was abandoned and none came since; else it has none. -/
theorem lookup_isSome_iff (b : Backing σ) (store : σ) (events : List (Event ε)) (f : Fingerprint)
    (hidle : ((start store).after b events).Idle f) :
    (((start store).after b events).cache.entries.lookup f).isSome = true ↔
      (((start store).after b events).cache.get f).isSome = true ∨ Stranded b (start store) events f := by
  have hstart : (start store : Machine σ ε).Coherent := .start store
  have hnone : (start store : Machine σ ε).cache.lingers f = false := rfl
  rw [(coherent_after b store events).isSome_lookup_iff hidle, hstart.lingers_after_iff b events f, hnone]
  simp only [Bool.false_eq_true, false_and, false_or]

/-- Callers that are never abandoned leave just the slots of complete documents. -/
theorem lookup_isSome_iff_of_no_abandon (b : Backing σ) (store : σ) (events : List (Event ε)) (f : Fingerprint)
    (hidle : ((start store).after b events).Idle f) (hstay : ∀ i, Event.abandon i ∉ events) :
    (((start store).after b events).cache.entries.lookup f).isSome = true ↔
      (((start store).after b events).cache.get f).isSome = true := by
  rw [lookup_isSome_iff b store events f hidle, or_iff_left]
  rintro ⟨past, i, future, rfl, -⟩
  exact hstay i (List.mem_append_right past List.mem_cons_self)

/-- Someone comes, finds nothing and is abandoned: the slot stays, with nothing in it. -/
theorem slot_outlives_abandoned :
    let m : Machine Unit Unit := (start ()).after Backing.none [.enter ⟨"f"⟩ (Thunk.mk fun _ => .error ()), .abandon 0]
    m.Idle ⟨"f"⟩ ∧ (m.cache.entries.lookup ⟨"f"⟩).isSome = true ∧ m.cache.get ⟨"f"⟩ = none := by
  refine ⟨fun i c hi _ => ?_, by decide, by decide⟩
  match i with
  | 0 =>
    cases hi
    rfl
  | i + 1 => cases hi

end Machine
end Galley
