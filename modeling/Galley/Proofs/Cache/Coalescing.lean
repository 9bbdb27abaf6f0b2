import Galley.Proofs.Cache.Coherence

/-! # Coalescing of callers

A run of the cache is a list of `Event`s: in any order callers come, advance and are
abandoned.  A document that `Cache.get` finds is found ever after, and while it is there
no render function of its fingerprint is started (`get_step`, `hasRendered_of_step`).
With the coherence of cache and callers this gives `coalescing_safe`. -/
namespace Galley
open Cache

variable {σ ε : Type}

namespace Machine

/-! ## Runs -/

/-- What can happen to a cache. -/
inductive Event (ε : Type) where
  /-- A caller comes for a fingerprint, with what its render function will give. -/
  | enter (f : Fingerprint) (outcome : Thunk (Except ε String))
  /-- A caller goes on to where it waits next. -/
  | advance (i : Nat)
  /-- A caller gives up. -/
  | abandon (i : Nat)

/-- The machine after an event. -/
def happen (b : Backing σ) (m : Machine σ ε) : Event ε → Machine σ ε
  | .enter f outcome => m.enter f outcome
  | .advance i => m.advance b i
  | .abandon i => m.abandon i

/-- The machine after events. -/
def after (b : Backing σ) (m : Machine σ ε) (events : List (Event ε)) : Machine σ ε :=
  events.foldl (happen b) m

theorem after_append (b : Backing σ) (m : Machine σ ε) (events events' : List (Event ε)) :
    m.after b (events ++ events') = (m.after b events).after b events' := List.foldl_append

/-- A machine that nobody has called yet. -/
def start (store : σ) : Machine σ ε := { cache := .start store, callers := #[] }

variable {b : Backing σ} {m m' : Machine σ ε} {f : Fingerprint} {document : Rendered}

/-- An event is a step, or changes nothing. -/
theorem happen_cases (event : Event ε) : m.happen b event = m ∨ Step b m (m.happen b event) := by
  cases event with
  | enter f outcome => exact Or.inr (step_enter b m f outcome)
  | advance i => exact advance_cases b m i
  | abandon i => exact abandon_cases b m i

/-- What every step keeps, every run keeps. -/
theorem after_induction {P : Machine σ ε → Prop} (hstep : ∀ {m m'}, P m → Step b m m' → P m')
    (hm : P m) (events : List (Event ε)) : P (m.after b events) := by
  induction events generalizing m with
  | nil => exact hm
  | cons event events ih =>
    refine ih ?_
    obtain hsame | hnext := happen_cases (b := b) (m := m) event
    · rw [hsame]
      exact hm
    · exact hstep hm hnext

theorem coherent_after (b : Backing σ) (store : σ) (events : List (Event ε)) :
    ((start store).after b events).Coherent :=
  after_induction (fun hm h => hm.step h) (.start store) events

/-! ## What is known of a fingerprint -/

/-- A caller for `f` runs its render function. -/
def Renders (m : Machine σ ε) (i : Nat) (f : Fingerprint) : Prop :=
  ∃ c : Caller ε, m.callers[i]? = some c ∧ c.fingerprint = f ∧ c.stage = .rendering

/-- A caller for `f` has started its render function, now or before. -/
def HasRendered (m : Machine σ ε) (i : Nat) (f : Fingerprint) : Prop :=
  ∃ c : Caller ε, m.callers[i]? = some c ∧ c.fingerprint = f ∧ c.ran = true

/-- A caller for `f` has returned a document. -/
def Returned (m : Machine σ ε) (i : Nat) (f : Fingerprint) (document : Rendered) : Prop :=
  ∃ c : Caller ε, m.callers[i]? = some c ∧ c.fingerprint = f ∧ c.stage = .done (.ok document)

theorem get_eq_some {c : Cache σ} :
    c.get f = some document ↔ ∃ s, c.entries.lookup f = some s ∧ c.documentIn s = some document := by
  rw [Cache.get, Option.bind_eq_some_iff]

/-- A returned document is the one in the cache. -/
theorem Coherent.get_of_returned (hm : m.Coherent) {i : Nat} (h : m.Returned i f document) :
    m.cache.get f = some document := by
  obtain ⟨c, hi, rfl, hs⟩ := h
  obtain ⟨hprint, hd⟩ := hm.answered hi hs
  exact get_eq_some.mpr ⟨c.slot, hprint ▸ hm.titled hd, hd⟩

/-- A caller that has its turn is at a fingerprint without a document. -/
theorem Coherent.get_of_hasTurn (hm : m.Coherent) {i : Nat} {c : Caller ε} (hi : m.callers[i]? = some c)
    (hs : c.stage.hasTurn = true) : m.cache.get c.fingerprint = none := by
  rw [Cache.get, hm.led hi (Stage.holds_of_hasTurn hs), Option.bind_some, (hm.first hi hs).1]

/-! ## What a document in the cache means for later steps -/

theorem get_fill_leave {c : Cache σ} {s i : Nat} {document' : Rendered} (hd : c.documentIn s = none)
    (h : c.get f = some document) : ((c.fill s document').leave s i).get f = some document := by
  obtain ⟨t, hl, ht⟩ := get_eq_some.mp h
  refine get_eq_some.mpr ⟨t, hl, ?_⟩
  rw [documentIn_leave, documentIn_fill, if_neg, ht]
  rintro ⟨rfl, -⟩
  cases hd.symm.trans ht

theorem get_leave (c : Cache σ) (s i : Nat) (f : Fingerprint) : (c.leave s i).get f = c.get f :=
  congrArg (Option.bind (c.entries.lookup f)) (funext (documentIn_leave c s i))

theorem get_discard {c : Cache σ} {g : Fingerprint} {s : Nat} (h : c.get f = some document) :
    (c.discard g s).get f = some document := by
  obtain hsame | ⟨slot, hl, hslot, hempty, -, hgone⟩ := discard_cases c g s
  · rw [hsame, h]
  obtain ⟨t, hf, ht⟩ := get_eq_some.mp h
  rw [hgone]
  refine get_eq_some.mpr ⟨t, ?_, ht⟩
  rw [lookup_filter_ne, if_neg, hf]
  rintro rfl
  obtain rfl : s = t := Option.some.inj (hl.symm.trans hf)
  rw [documentIn, hslot, Option.bind_some, hempty] at ht
  cases ht

/-- **A document in the cache stays there.** -/
theorem get_step (hm : m.Coherent) (h : Step b m m') (hget : m.cache.get f = some document) :
    m'.cache.get f = some document := by
  cases h with
  | hit hl hd => exact hget
  | join hl hd =>
    obtain ⟨s, hs, hd⟩ := get_eq_some.mp hget
    exact get_eq_some.mpr ⟨s, hs, (documentIn_enqueue ..).trans hd⟩
  | begin hl =>
    obtain ⟨s, hs, hd⟩ := get_eq_some.mp hget
    refine get_eq_some.mpr ⟨s, ?_, (documentIn_addSlot ..).trans hd⟩
    rw [arrive, lookup_addSlot _ hl, if_neg, hs]
    rintro rfl
    cases hl.symm.trans hs
  | serve hi hs hd => exact (get_leave ..).trans hget
  | turn hi hs hslot hd hq => exact hget
  | found hi hs hb => exact get_fill_leave (hm.first hi (by rw [hs]; rfl)).1 hget
  | missed hi hs hb => exact hget
  | rendered hi hs ho => exact hget
  | failed hi hs ho => exact get_discard ((get_leave ..).trans hget)
  | saved hi hs => exact get_fill_leave (hm.first hi (by rw [hs]; rfl)).1 hget
  | abandoned hi hs => exact (get_leave ..).trans hget

theorem hasRendered_setStage {i j : Nat} {stage : Stage ε} (h : (m.setStage i stage).HasRendered j f) :
    m.HasRendered j f := by
  obtain ⟨c, hj, rfl, hc⟩ := h
  obtain ⟨-, hold⟩ | ⟨-, d, hold, rfl⟩ := setStage_eq_some.mp hj
  · exact ⟨c, hold, rfl, hc⟩
  · exact ⟨d, hold, rfl, hc⟩

theorem hasRendered_arrive {cache : Cache σ} {g : Fingerprint} {outcome : Thunk (Except ε String)}
    {slot j : Nat} {stage : Stage ε} (h : (m.arrive cache g outcome slot stage).HasRendered j f) :
    m.HasRendered j f := by
  obtain ⟨c, hj, rfl, hc⟩ := h
  obtain hj | ⟨-, rfl⟩ := arrive_eq_some.mp hj
  · exact ⟨c, hj, rfl, hc⟩
  · cases hc

/-- **While a document is in the cache no render function of its fingerprint is started.** -/
theorem hasRendered_of_step (hm : m.Coherent) (h : Step b m m') (hget : m.cache.get f = some document)
    {j : Nat} (hj : m'.HasRendered j f) : m.HasRendered j f := by
  cases h with
  | hit hl hd => exact hasRendered_arrive hj
  | join hl hd => exact hasRendered_arrive hj
  | begin hl => exact hasRendered_arrive hj
  | @missed i c store hi hs hb =>
    obtain ⟨d, hd, rfl, hran⟩ := hj
    obtain ⟨-, hd⟩ | ⟨rfl, e, he, rfl⟩ := modifyCaller_eq_some.mp hd
    · exact ⟨d, hd, rfl, hran⟩
    · obtain rfl := Option.some.inj (hi.symm.trans he)
      cases (hm.get_of_hasTurn hi (by rw [hs]; rfl)).symm.trans hget
  | turn | serve | found | rendered | failed | saved | abandoned => exact hasRendered_setStage hj

/-! ## Runs -/

/-- **Coalescing is safe.**  Take any moment of any run, and any later one.  At most one
caller runs a render function of `f`.  Once a caller for `f` has returned a document, no
render function of `f` runs later and none is started any more; every document that a
caller for `f` returns later, or has returned before, is that one, and so is what the
cache then finds. -/
theorem coalescing_safe (b : Backing σ) (store : σ) (past future : List (Event ε)) (f : Fingerprint) :
    let now := (start store : Machine σ ε).after b past
    let later := now.after b future
    (∀ i j, now.Renders i f → now.Renders j f → i = j) ∧
      ∀ i document, now.Returned i f document →
        (∀ j, ¬ later.Renders j f) ∧
        (∀ j, later.HasRendered j f → now.HasRendered j f) ∧
        (∀ j document', now.Returned j f document' ∨ later.Returned j f document' → document' = document) ∧
        later.cache.get f = some document := by
  intro now later
  have hnow : now.Coherent := coherent_after b store past
  refine ⟨?_, ?_⟩
  · rintro i j ⟨c, hi, rfl, hc⟩ ⟨d, hj, hprint, hd⟩
    have hc' : c.stage.hasTurn = true := by rw [hc]; rfl
    have hd' : d.stage.hasTurn = true := by rw [hd]; rfl
    have hslot : c.slot = d.slot := by
      have hled := hnow.led hj (Stage.holds_of_hasTurn hd')
      rw [hprint, hnow.led hi (Stage.holds_of_hasTurn hc')] at hled
      exact Option.some.inj hled
    exact hnow.turn_unique hi hj hc' hd' hslot
  · intro i document hreturned
    have hget := hnow.get_of_returned hreturned
    -- carried along the run: coherence, the document in the cache, and what has been started
    obtain ⟨hlater, hget', hstarted⟩ :
        later.Coherent ∧ later.cache.get f = some document ∧
          ∀ j, later.HasRendered j f → now.HasRendered j f := by
      refine after_induction (P := fun m => m.Coherent ∧ m.cache.get f = some document ∧
        ∀ j, m.HasRendered j f → now.HasRendered j f) ?_ ⟨hnow, hget, fun j hj => hj⟩ future
      rintro m m' ⟨hm, hget, hkept⟩ hstep
      exact ⟨hm.step hstep, get_step hm hstep hget,
        fun j hj => hkept j (hasRendered_of_step hm hstep hget hj)⟩
    refine ⟨?_, hstarted, ?_, hget'⟩
    · rintro j ⟨c, hj, rfl, hc⟩
      cases (hlater.get_of_hasTurn hj (by rw [hc]; rfl)).symm.trans hget'
    · rintro j document' (hj | hj)
      · exact Option.some.inj ((hnow.get_of_returned hj).symm.trans hget)
      · exact Option.some.inj ((hlater.get_of_returned hj).symm.trans hget')

/-- The first of three callers for one fingerprint fails, and the second goes on while the
third waits. -/
def failedFirst : List (Event Unit) :=
  [.enter ⟨"f"⟩ (.pure (.error ())), .enter ⟨"f"⟩ (.pure (.ok "a")), .enter ⟨"f"⟩ (.pure (.ok "b")),
    .advance 0, .advance 0, .advance 0, .advance 1, .advance 1]

/-- The second caller returns, the third is served, and a fourth one finds the document. -/
def secondReturns : List (Event Unit) := failedFirst ++ [.advance 1, .advance 1]
def othersServed : List (Event Unit) := [.advance 2, .enter ⟨"f"⟩ (.pure (.ok "c"))]

theorem coalescing_safe_after_failure :
    let before := (start () : Machine Unit Unit).after Backing.none failedFirst
    let now := (start () : Machine Unit Unit).after Backing.none secondReturns
    let later := now.after Backing.none othersServed
    (before.Renders 1 ⟨"f"⟩ ∧ ¬ before.Renders 2 ⟨"f"⟩) ∧
      now.Returned 1 ⟨"f"⟩ ⟨⟨"f"⟩, "a"⟩ ∧ later.cache.get ⟨"f"⟩ = some ⟨⟨"f"⟩, "a"⟩ ∧
      later.Returned 3 ⟨"f"⟩ ⟨⟨"f"⟩, "a"⟩ := by
  intro before now later
  have hrenders : before.Renders 1 ⟨"f"⟩ := ⟨_, rfl, rfl, rfl⟩
  have hreturned : now.Returned 1 ⟨"f"⟩ ⟨⟨"f"⟩, "a"⟩ := ⟨_, rfl, rfl, rfl⟩
  have hserved : later.Returned 3 ⟨"f"⟩ ⟨⟨"f"⟩, "a"⟩ := ⟨_, rfl, rfl, rfl⟩
  obtain ⟨hone, -⟩ := coalescing_safe Backing.none () failedFirst [] ⟨"f"⟩
  obtain ⟨-, -, -, hget⟩ :=
    (coalescing_safe Backing.none () secondReturns othersServed ⟨"f"⟩).2 1 _ hreturned
  refine ⟨⟨hrenders, ?_⟩, hreturned, hget, hserved⟩
  intro h
  cases hone 1 2 hrenders h

end Machine
end Galley
