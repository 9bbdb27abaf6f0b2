import Galley.Proofs.Cache.Settling

/-! # Where documents come from

A backing is `Honest` if it gives back only what it was handed.  Over such a backing every
document in the cache and every result of a call comes from the render function of a call
for the same fingerprint: `Machine.Sourced` says so, for a relation that all outcomes of
render functions are in, every step keeps it (`Sourced.step`), and so does every run. -/
namespace Galley
open Cache

variable {σ ε : Type}

namespace Backing

/-- What a backing is asked to do. -/
inductive Access where
  | load (f : Fingerprint)
  | save (f : Fingerprint) (markup : String)

/-- The state in which an access leaves a backing. -/
def access (b : Backing σ) (s : σ) : Access → σ
  | .load f => (b.load f s).2
  | .save f markup => b.save f markup s

/-- The state in which accesses leave a backing. -/
def reached (b : Backing σ) (s : σ) (accesses : List Access) : σ := accesses.foldl b.access s

theorem reached_concat (b : Backing σ) (s : σ) (accesses : List Access) (a : Access) :
    b.reached s (accesses ++ [a]) = b.access (b.reached s accesses) a := by
  rw [reached, List.foldl_append]
  rfl

/-- A backing that is empty in the state `kept`, and from then on gives back only what it
was handed for the fingerprint.  It need not keep it: any access may fail. -/
def Honest (b : Backing σ) (kept : σ) : Prop :=
  ∀ accesses f markup, (b.load f (b.reached kept accesses)).1 = some markup → .save f markup ∈ accesses

end Backing
namespace Cache

/-- What a caller for `f` has in hand is an outcome in `T`. -/
def Stage.Sourced (T : Fingerprint → Except ε String → Prop) (f : Fingerprint) : Stage ε → Prop
  | .saving markup => T f (.ok markup)
  | .done result => ∃ outcome, T f outcome ∧ result = outcome.map (Rendered.mk f)
  | _ => True

end Cache
namespace Machine

/-- Everything in the cache, in its backing and with its callers is an outcome in `T`. -/
structure Sourced (b : Backing σ) (kept : σ) (T : Fingerprint → Except ε String → Prop)
    (m : Machine σ ε) : Prop where
  /-- The backing was handed only outcomes. -/
  stored : ∃ accesses, m.cache.store = b.reached kept accesses ∧
    ∀ f markup, .save f markup ∈ accesses → T f (.ok markup)
  document : ∀ {s d}, m.cache.documentIn s = some d → T d.fingerprint (.ok d.markup)
  outcome : ∀ {i : Nat} {c : Caller ε}, m.callers[i]? = some c → T c.fingerprint c.outcome.get
  stage : ∀ {i : Nat} {c : Caller ε}, m.callers[i]? = some c → c.stage.Sourced T c.fingerprint

variable {b : Backing σ} {kept : σ} {T : Fingerprint → Except ε String → Prop} {m m' : Machine σ ε}

theorem Sourced.start (b : Backing σ) (kept : σ) (T : Fingerprint → Except ε String → Prop) :
    (Machine.start kept).Sourced b kept T where
  stored := ⟨[], rfl, nofun⟩
  document h := by simp [Machine.start, documentIn, Cache.start] at h
  outcome h := by simp [Machine.start] at h
  stage h := by simp [Machine.start] at h

/-! ## What one step keeps -/

/-- After an access the backing has still been handed only outcomes. -/
theorem Sourced.stored_access (hm : m.Sourced b kept T) {a : Backing.Access}
    (ha : ∀ f markup, a = .save f markup → T f (.ok markup)) :
    ∃ accesses, b.access m.cache.store a = b.reached kept accesses ∧
      ∀ f markup, .save f markup ∈ accesses → T f (.ok markup) := by
  obtain ⟨accesses, hstore, hsaved⟩ := hm.stored
  refine ⟨accesses ++ [a], by rw [b.reached_concat, hstore], ?_⟩
  intro f markup h
  obtain h | h := List.mem_append.mp h
  · exact hsaved f markup h
  · exact ha f markup (List.mem_singleton.mp h).symm

/-- A caller goes to a stage, while the cache and its backing change as given. -/
theorem Sourced.restage (hm : m.Sourced b kept T) {cache : Cache σ} {i : Nat} {c : Caller ε}
    {change : Caller ε → Caller ε} (hi : m.callers[i]? = some c)
    (hstored : ∃ accesses, cache.store = b.reached kept accesses ∧
      ∀ f markup, .save f markup ∈ accesses → T f (.ok markup))
    (hdocument : ∀ {s d}, cache.documentIn s = some d → T d.fingerprint (.ok d.markup))
    (hprint : ∀ c, (change c).fingerprint = c.fingerprint) (hout : ∀ c, (change c).outcome = c.outcome)
    (hstage : (change c).stage.Sourced T c.fingerprint) :
    (({ m with cache } : Machine σ ε).modifyCaller i change).Sourced b kept T where
  stored := hstored
  document := hdocument
  outcome := by
    intro j d hj
    obtain ⟨-, hold⟩ | ⟨rfl, d, hold, rfl⟩ := modifyCaller_eq_some.mp hj
    · exact hm.outcome hold
    · rw [hprint, hout]
      exact hm.outcome hold
  stage := by
    intro j d hj
    obtain ⟨-, hold⟩ | ⟨rfl, d, hold, rfl⟩ := modifyCaller_eq_some.mp hj
    · exact hm.stage hold
    · obtain rfl := Option.some.inj (hi.symm.trans hold)
      rw [hprint]
      exact hstage

/-- A caller arrives, while the documents stay as they are. -/
theorem Sourced.arrive (hm : m.Sourced b kept T) {cache : Cache σ} {f : Fingerprint}
    {outcome : Thunk (Except ε String)} {slot : Nat} {stage : Stage ε} (hstore : cache.store = m.cache.store)
    (hdocument : ∀ s, cache.documentIn s = m.cache.documentIn s) (hT : T f outcome.get)
    (hstage : stage.Sourced T f) : (m.arrive cache f outcome slot stage).Sourced b kept T where
  stored := by
    rw [Machine.arrive, hstore]
    exact hm.stored
  document h := hm.document ((hdocument _).symm.trans h)
  outcome := by
    intro j d hj
    obtain hold | ⟨-, rfl⟩ := arrive_eq_some.mp hj
    · exact hm.outcome hold
    · exact hT
  stage := by
    intro j d hj
    obtain hold | ⟨-, rfl⟩ := arrive_eq_some.mp hj
    · exact hm.stage hold
    · exact hstage

/-- A document in the slot of a fingerprint, as a result for that fingerprint. -/
theorem Sourced.result (hm : m.Sourced b kept T) (hco : m.Coherent) {f : Fingerprint} {s : Nat} {d : Rendered}
    (hl : m.cache.entries.lookup f = some s) (hd : m.cache.documentIn s = some d) :
    Stage.Sourced T f (.done (.ok d)) := by
  obtain rfl : d.fingerprint = f := hco.entry_inj (hco.titled hd) hl
  exact ⟨.ok d.markup, hm.document hd, rfl⟩

/-- A slot filled with an outcome. -/
theorem Sourced.document_fill (hm : m.Sourced b kept T) {f : Fingerprint} {markup : String}
    (hT : T f (.ok markup)) {store : σ} {s i t : Nat} {d : Rendered}
    (h : (({ m.cache with store }.fill s { fingerprint := f, markup }).leave s i).documentIn t = some d) :
    T d.fingerprint (.ok d.markup) := by
  rw [documentIn_leave, documentIn_fill] at h
  split at h
  · obtain rfl := Option.some.inj h
    exact hT
  · exact hm.document h

theorem documentIn_discard (c : Cache σ) (f : Fingerprint) (s t : Nat) :
    (c.discard f s).documentIn t = c.documentIn t := by
  obtain hsame | ⟨slot, -, -, -, -, hgone⟩ := discard_cases c f s
  · rw [hsame]
  · rw [hgone]
    rfl

theorem store_discard (c : Cache σ) (f : Fingerprint) (s : Nat) : (c.discard f s).store = c.store := by
  obtain hsame | ⟨slot, -, -, -, -, hgone⟩ := discard_cases c f s
  · rw [hsame]
  · rw [hgone]

/-- **Every step keeps documents and results sourced**, over an honest backing and as long
as the render functions of new callers give outcomes in `T`. -/
theorem Sourced.step (hb : b.Honest kept) (hm : m.Sourced b kept T) (hco : m.Coherent) (h : Step b m m')
    (hnew : ∀ {c : Caller ε}, m'.callers[m.callers.size]? = some c → T c.fingerprint c.outcome.get) :
    m'.Sourced b kept T := by
  have harrived {cache : Cache σ} {f : Fingerprint} {outcome : Thunk (Except ε String)} {slot : Nat}
      {stage : Stage ε} : (m.arrive cache f outcome slot stage).callers[m.callers.size]? =
        some { fingerprint := f, outcome, slot, stage, ran := false } := arrive_eq_some.mpr (Or.inr ⟨rfl, rfl⟩)
  cases h with
  | hit hl hd => exact hm.arrive rfl (fun _ => rfl) (hnew harrived) (hm.result hco hl hd)
  | join hl hd => exact hm.arrive rfl (documentIn_enqueue _ _ _) (hnew harrived) trivial
  | begin hl => exact hm.arrive rfl (documentIn_addSlot _ _ _) (hnew harrived) trivial
  | serve hi hs hd =>
    refine hm.restage hi hm.stored (fun h => hm.document ((documentIn_leave ..).symm.trans h))
      (fun _ => rfl) (fun _ => rfl) ?_
    exact hm.result hco (hco.led hi (by rw [hs]; rfl)) hd
  | turn hi hs hslot hd hq => exact hm.restage hi hm.stored hm.document (fun _ => rfl) (fun _ => rfl) trivial
  | @found i c markup store hi hs hload =>
    obtain ⟨accesses, hstore, hsaved⟩ := hm.stored
    have hT : T c.fingerprint (.ok markup) :=
      hsaved _ _ (hb accesses _ _ (by rw [← hstore, hload]))
    have hstored := hm.stored_access (a := .load c.fingerprint) nofun
    rw [Backing.access, hload] at hstored
    exact hm.restage hi hstored (hm.document_fill hT) (fun _ => rfl) (fun _ => rfl) ⟨.ok markup, hT, rfl⟩
  | @missed i c store hi hs hload =>
    have hstored := hm.stored_access (a := .load c.fingerprint) nofun
    rw [Backing.access, hload] at hstored
    exact hm.restage hi hstored hm.document (fun _ => rfl) (fun _ => rfl) trivial
  | @rendered i c markup hi hs ho =>
    have hT : T c.fingerprint (.ok markup) := ho ▸ hm.outcome hi
    exact hm.restage hi hm.stored hm.document (fun _ => rfl) (fun _ => rfl) hT
  | @failed i c e hi hs ho =>
    refine hm.restage hi ?_ ?_ (fun _ => rfl) (fun _ => rfl) ⟨.error e, ho ▸ hm.outcome hi, rfl⟩
    · rw [store_discard]
      exact hm.stored
    · intro s d h
      rw [documentIn_discard, documentIn_leave] at h
      exact hm.document h
  | @saved i c markup hi hs =>
    have hT : T c.fingerprint (.ok markup) := by
      have hstage := hm.stage hi
      rw [hs] at hstage
      exact hstage
    have hstored := hm.stored_access (a := .save c.fingerprint markup) (by rintro f y ⟨⟩; exact hT)
    exact hm.restage hi hstored (hm.document_fill hT) (fun _ => rfl) (fun _ => rfl) ⟨.ok markup, hT, rfl⟩
  | abandoned hi hs =>
    exact hm.restage hi hm.stored (fun h => hm.document ((documentIn_leave ..).symm.trans h))
      (fun _ => rfl) (fun _ => rfl) trivial

/-! ## Runs -/

theorem enter_callers (m : Machine σ ε) (f : Fingerprint) (outcome : Thunk (Except ε String)) :
    ∃ c : Caller ε, (m.enter f outcome).callers = m.callers.push c ∧ c.fingerprint = f ∧
      c.outcome = outcome ∧ c.stage ≠ .abandoned := by
  unfold enter
  split
  · split <;> exact ⟨_, rfl, rfl, rfl, nofun⟩
  · exact ⟨_, rfl, rfl, rfl, nofun⟩

theorem size_abandon (m : Machine σ ε) (i : Nat) : (m.abandon i).callers.size = m.callers.size := by
  unfold abandon
  repeat' split
  all_goals first | rfl | exact Array.size_modify

/-- What every event keeps, every run keeps. -/
theorem Sourced.after (hb : b.Honest kept) (hm : m.Sourced b kept T) (hco : m.Coherent)
    {events : List (Event ε)} (hevents : ∀ f outcome, .enter f outcome ∈ events → T f outcome.get) :
    (m.after b events).Sourced b kept T := by
  induction events generalizing m with
  | nil => exact hm
  | cons event events ih =>
    have hrest := fun f outcome h => hevents f outcome (List.mem_cons_of_mem _ h)
    obtain hsame | hstep := happen_cases (b := b) (m := m) event
    · refine ih ?_ ?_ hrest <;> rwa [hsame]
    · refine ih (hm.step hb hco hstep ?_) (hco.step hstep) hrest
      intro c hc
      cases event with
      | enter f outcome =>
        obtain ⟨d, hpush, hprint, hout, -⟩ := enter_callers m f outcome
        have hcallers : (m.happen b (.enter f outcome)).callers = m.callers.push d := hpush
        rw [hcallers, Array.getElem?_push_size] at hc
        obtain rfl := Option.some.inj hc
        rw [hprint, hout]
        exact hevents f outcome (List.mem_cons_self ..)
      | advance i =>
        have hlt := (Array.getElem?_eq_some_iff.mp hc).1
        exact absurd hlt (Nat.not_lt.mpr (Nat.le_of_eq (size_advance b m i)))
      | abandon i =>
        have hlt := (Array.getElem?_eq_some_iff.mp hc).1
        exact absurd hlt (Nat.not_lt.mpr (Nat.le_of_eq (size_abandon m i)))

end Machine
end Galley
