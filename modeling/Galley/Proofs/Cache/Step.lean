import Galley.Cache.Machine

/-! # What one step of the cache can do

Everything that happens to a cache is a `Step`: a caller enters, takes a step of
its own, or is abandoned.  There are eleven kinds of them, and each says under
which conditions it is taken and what it leaves.  The functions of the machine
take no others (`step_enter`, `advance_cases`, `abandon_cases`), so an invariant
of the machine is proved by one case for each kind. -/
namespace Galley
open Cache

variable {σ ε : Type}

namespace Cache

/-! ## Looking things up after a change -/

theorem getElem?_modifySlot (c : Cache σ) (s : Nat) (change : Slot → Slot) (t : Nat) :
    (c.modifySlot s change).slots[t]? =
      if s = t then (c.slots[t]?).map change else c.slots[t]? := by
  rw [modifySlot, Array.getElem?_modify]

theorem getElem?_leave (c : Cache σ) (s i t : Nat) :
    (c.leave s i).slots[t]? =
      if s = t then (c.slots[t]?).map fun slot => { slot with queue := slot.queue.filter (· != i) }
      else c.slots[t]? := c.getElem?_modifySlot s _ t

/-- Leaving a slot changes no document. -/
theorem documentIn_leave (c : Cache σ) (s i t : Nat) : (c.leave s i).documentIn t = c.documentIn t := by
  rw [documentIn, getElem?_leave, documentIn]
  split
  · cases c.slots[t]? <;> rfl
  · rfl

theorem lookup_filter_ne (entries : List (Fingerprint × Nat)) (f g : Fingerprint) :
    (entries.filter fun e => e.1 != f).lookup g = if g = f then none else entries.lookup g := by
  induction entries with
  | nil => simp
  | cons e more ih => grind

/-- A discard does nothing, or takes out an empty slot that nobody holds. -/
theorem discard_cases (c : Cache σ) (f : Fingerprint) (s : Nat) :
    c.discard f s = c ∨
      ∃ slot, c.entries.lookup f = some s ∧ c.slots[s]? = some slot ∧
        slot.document = none ∧ slot.queue = [] ∧
        c.discard f s = { c with entries := c.entries.filter fun e => e.1 != f } := by
  unfold discard
  cases hslot : c.slots[s]? with
  | none => simp
  | some slot =>
    by_cases hunused : (c.entries.lookup f == some s && (slot.document.isNone && slot.queue.isEmpty)) = true
    · refine Or.inr ⟨slot, ?_⟩
      simp only [hunused, if_true]
      simpa [and_assoc] using hunused
    · exact Or.inl (if_neg hunused)

/-- A caller queues at a slot that is there. -/
def enqueue (c : Cache σ) (slot caller : Nat) : Cache σ :=
  c.modifySlot slot fun s => { s with queue := s.queue ++ [caller] }

/-- A new slot with its first caller. -/
def addSlot (c : Cache σ) (f : Fingerprint) (caller : Nat) : Cache σ :=
  { c with
    entries := c.entries ++ [(f, c.slots.size)]
    slots := c.slots.push { document := none, queue := [caller] } }

/-- The stages in which a caller has its slot in hand. -/
def Stage.holds : Stage ε → Bool
  | .waiting => true
  | .loading => true
  | .rendering => true
  | .saving _ => true
  | .done _ => false
  | .abandoned => false

/-- The stages in which it is a caller's turn to fill its slot. -/
def Stage.hasTurn : Stage ε → Bool
  | .loading => true
  | .rendering => true
  | .saving _ => true
  | _ => false

end Cache
namespace Machine

theorem getElem?_modifyCaller (m : Machine σ ε) (i : Nat) (change : Caller ε → Caller ε) (j : Nat) :
    (m.modifyCaller i change).callers[j]? =
      if i = j then (m.callers[j]?).map change else m.callers[j]? := by
  rw [modifyCaller, Array.getElem?_modify]

/-! ## Steps -/

/-- The backing has moved to another state. -/
def withStore (m : Machine σ ε) (store : σ) : Machine σ ε := { m with cache := { m.cache with store } }

/-- A new caller, after a change of the cache. -/
def arrive (m : Machine σ ε) (cache : Cache σ) (f : Fingerprint) (outcome : Thunk (Except ε String))
    (slot : Nat) (stage : Stage ε) : Machine σ ε :=
  { cache, callers := m.callers.push { fingerprint := f, outcome, slot, stage, ran := false } }

/-- A caller lets go of its slot. -/
def release (m : Machine σ ε) (i slot : Nat) (stage : Stage ε) : Machine σ ε :=
  { m with cache := m.cache.leave slot i }.setStage i stage

/-- What can happen next, over a backing `b`.  Callers are numbered in order of
arrival; a step of the caller `i` says what `i` is before it. -/
inductive Step (b : Backing σ) (m : Machine σ ε) : Machine σ ε → Prop where
  /-- A caller enters and finds a document. -/
  | hit {f : Fingerprint} {outcome : Thunk (Except ε String)} {slot : Nat} {document : Rendered}
      (hl : m.cache.entries.lookup f = some slot) (hd : m.cache.documentIn slot = some document) :
      Step b m (m.arrive m.cache f outcome slot (.done (.ok document)))
  /-- A caller enters and queues at a slot that is there. -/
  | join {f : Fingerprint} {outcome : Thunk (Except ε String)} {slot : Nat}
      (hl : m.cache.entries.lookup f = some slot) (hd : m.cache.documentIn slot = none) :
      Step b m (m.arrive (m.cache.enqueue slot m.callers.size) f outcome slot .waiting)
  /-- A caller enters and is the first at a new slot. -/
  | begin {f : Fingerprint} {outcome : Thunk (Except ε String)} (hl : m.cache.entries.lookup f = none) :
      Step b m (m.arrive (m.cache.addSlot f m.callers.size) f outcome m.cache.slots.size .waiting)
  /-- A caller that waited finds the document of another one. -/
  | serve {i : Nat} {c : Caller ε} {document : Rendered} (hi : m.callers[i]? = some c)
      (hs : c.stage = .waiting) (hd : m.cache.documentIn c.slot = some document) :
      Step b m (m.release i c.slot (.done (.ok document)))
  /-- A caller that waited has its turn. -/
  | turn {i : Nat} {c : Caller ε} {slot : Slot} (hi : m.callers[i]? = some c)
      (hs : c.stage = .waiting) (hslot : m.cache.slots[c.slot]? = some slot)
      (hd : slot.document = none) (hq : slot.queue.head? = some i) :
      Step b m (m.setStage i .loading)
  /-- The backing has the markup. -/
  | found {i : Nat} {c : Caller ε} {markup : String} {store : σ} (hi : m.callers[i]? = some c)
      (hs : c.stage = .loading) (hb : b.load c.fingerprint m.cache.store = (some markup, store)) :
      Step b m ((m.withStore store).complete i c markup)
  /-- The backing has nothing, and the render function is run. -/
  | missed {i : Nat} {c : Caller ε} {store : σ} (hi : m.callers[i]? = some c)
      (hs : c.stage = .loading) (hb : b.load c.fingerprint m.cache.store = (none, store)) :
      Step b m ((m.withStore store).modifyCaller i fun c => { c with stage := .rendering, ran := true })
  /-- The render function gives markup. -/
  | rendered {i : Nat} {c : Caller ε} {markup : String} (hi : m.callers[i]? = some c)
      (hs : c.stage = .rendering) (ho : c.outcome.get = .ok markup) :
      Step b m (m.setStage i (.saving markup))
  /-- The render function fails. -/
  | failed {i : Nat} {c : Caller ε} {e : ε} (hi : m.callers[i]? = some c)
      (hs : c.stage = .rendering) (ho : c.outcome.get = .error e) :
      Step b m (m.fail i c e)
  /-- The backing has been handed the markup. -/
  | saved {i : Nat} {c : Caller ε} {markup : String} (hi : m.callers[i]? = some c)
      (hs : c.stage = .saving markup) :
      Step b m ((m.withStore (b.save c.fingerprint markup m.cache.store)).complete i c markup)
  /-- A caller is abandoned. -/
  | abandoned {i : Nat} {c : Caller ε} (hi : m.callers[i]? = some c) (hs : c.stage.holds = true) :
      Step b m (m.release i c.slot .abandoned)

variable (b : Backing σ) (m : Machine σ ε)

theorem step_enter (f : Fingerprint) (outcome : Thunk (Except ε String)) :
    Step b m (m.enter f outcome) := by
  cases hl : m.cache.entries.lookup f with
  | none =>
    simp only [enter, hl]
    exact .begin hl
  | some slot =>
    cases hd : m.cache.documentIn slot with
    | none =>
      simp only [enter, hl, hd]
      exact .join hl hd
    | some document =>
      simp only [enter, hl, hd]
      exact .hit hl hd

/-- A waiting caller is served or has its turn, if there is a document or it is the
first. -/
theorem await_step {i : Nat} {c : Caller ε} {slot : Slot} (hi : m.callers[i]? = some c)
    (hs : c.stage = .waiting) (hslot : m.cache.slots[c.slot]? = some slot)
    (hready : slot.document = none → slot.queue.head? = some i) : Step b m (m.await i c) := by
  cases hd : slot.document with
  | some document =>
    simp only [await, hslot, hd]
    exact .serve hi hs (by rw [documentIn, hslot]; exact hd)
  | none =>
    simp only [await, hslot, hd, hready hd, BEq.rfl, if_true]
    exact .turn hi hs hslot hd (hready hd)

/-- A caller that advances takes a step, unless it has ended or is kept waiting. -/
theorem advance_step {i : Nat} {c : Caller ε} (hi : m.callers[i]? = some c) (hs : c.stage.holds = true)
    (hready : c.stage = .waiting → ∃ slot, m.cache.slots[c.slot]? = some slot ∧
      (slot.document = none → slot.queue.head? = some i)) : Step b m (m.advance b i) := by
  cases hstage : c.stage with
  | waiting =>
    obtain ⟨slot, hslot, hfirst⟩ := hready hstage
    simp only [advance, hi, hstage]
    exact await_step b m hi hstage hslot hfirst
  | loading =>
    simp only [advance, hi, hstage, consult]
    rcases hb : b.load c.fingerprint m.cache.store with ⟨markup | markup, store⟩
    · exact .missed hi hstage hb
    · exact .found hi hstage hb
  | rendering =>
    cases ho : c.outcome.get with
    | ok markup =>
      simp only [advance, hi, hstage, ho]
      exact .rendered hi hstage ho
    | error e =>
      simp only [advance, hi, hstage, ho]
      exact .failed hi hstage ho
  | saving markup =>
    simp only [advance, hi, hstage]
    exact .saved hi hstage
  | done result =>
    rw [hstage] at hs
    cases hs
  | abandoned =>
    rw [hstage] at hs
    cases hs

/-- A caller that advances takes a step, or everything stays as it is. -/
theorem advance_cases (i : Nat) : m.advance b i = m ∨ Step b m (m.advance b i) := by
  cases hi : m.callers[i]? with
  | none => simp only [advance, hi, true_or]
  | some c =>
    by_cases hready : c.stage = .waiting → ∃ slot, m.cache.slots[c.slot]? = some slot ∧
        (slot.document = none → slot.queue.head? = some i)
    · cases hs : c.stage with
      | done result => simp only [advance, hi, hs, true_or]
      | abandoned => simp only [advance, hi, hs, true_or]
      | _ => exact Or.inr (advance_step b m hi (by rw [hs]; rfl) hready)
    · obtain ⟨hs, hblocked⟩ := Classical.not_imp.mp hready
      simp only [advance, hi, hs, await]
      cases hslot : m.cache.slots[c.slot]? with
      | none => exact Or.inl rfl
      | some slot =>
        have hfirst := fun h => hblocked ⟨slot, hslot, h⟩
        obtain ⟨hd, hq⟩ := Classical.not_imp.mp hfirst
        simp only [hd, beq_iff_eq, hq, if_false, true_or]

theorem abandon_cases (i : Nat) : m.abandon i = m ∨ Step b m (m.abandon i) := by
  cases hi : m.callers[i]? with
  | none => simp only [abandon, hi, true_or]
  | some c =>
    have hstep (hs : c.stage.holds = true) : Step b m (m.release i c.slot .abandoned) :=
      .abandoned hi hs
    cases hs : c.stage with
    | done result => simp only [abandon, hi, hs, true_or]
    | abandoned => simp only [abandon, hi, hs, true_or]
    | _ =>
      simp only [abandon, hi, hs]
      exact Or.inr (hstep (by rw [hs]; rfl))

end Machine
end Galley
