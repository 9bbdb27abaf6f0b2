import Galley.Proofs.Cache.Honesty
import Galley.Proofs.Cache.Restarting

/-! # A store that fails

A store that was empty when the cache was made has nothing but what this cache has handed to it,
and what the cache has handed over it has itself (`Machine.Held`).  So whoever asks the store
learns nothing, whether the load fails or not, and the cache takes the very steps that it would
take without a store (`Machine.Held.bare_after`).  What comes of a history of batches is told by
the accounts of the cache alone (`Lived.chronicled`), so it is the same over such a store and
without one, whichever loads and saves fail (`Cache.failing_store_harmless`). -/
namespace Galley
open Cache

variable {σ ε V : Type}

/-! ## Without the store -/

namespace Cache

/-- The cache without its store. -/
def bare (c : Cache σ) : Cache Unit := { entries := c.entries, slots := c.slots, store := () }

theorem bare_discard (c : Cache σ) (f : Fingerprint) (s : Nat) : (c.discard f s).bare = c.bare.discard f s := by
  unfold discard
  exact apply_ite bare _ _ _

end Cache
namespace Machine

variable {b : Backing σ} {kept : σ} {m m' : Machine σ ε}

/-- The machine without its store. -/
def bare (m : Machine σ ε) : Machine Unit ε := { cache := m.cache.bare, callers := m.callers }

theorem bare_enter (m : Machine σ ε) (f : Fingerprint) (outcome : Thunk (Except ε String)) :
    (m.enter f outcome).bare = m.bare.enter f outcome := by
  have hentries : m.bare.cache.entries = m.cache.entries := rfl
  have hdocument (s : Nat) : m.bare.cache.documentIn s = m.cache.documentIn s := rfl
  simp only [enter, hentries, hdocument]
  cases m.cache.entries.lookup f with
  | none => rfl
  | some slot => cases hd : m.cache.documentIn slot <;> simp only [hd] <;> rfl

theorem bare_await (m : Machine σ ε) (i : Nat) (c : Caller ε) : (m.await i c).bare = m.bare.await i c := by
  have hslots : m.bare.cache.slots = m.cache.slots := rfl
  simp only [await, hslots]
  cases m.cache.slots[c.slot]? with
  | none => rfl
  | some slot =>
    cases hd : slot.document with
    | some document => simp only [hd]; rfl
    | none =>
      simp only [hd]
      split <;> rfl

theorem bare_fail (m : Machine σ ε) (i : Nat) (c : Caller ε) (e : ε) : (m.fail i c e).bare = m.bare.fail i c e := by
  have hdiscard := bare_discard (m.cache.leave c.slot i) c.fingerprint c.slot
  exact congrArg
    (fun cache : Cache Unit => ({ m.bare with cache } : Machine Unit ε).setStage i (.done (.error e))) hdiscard

/-- A caller whose load finds nothing advances as it does without a store. -/
theorem bare_advance {i : Nat} (hnothing : ∀ {c : Caller ε}, m.callers[i]? = some c → c.stage = .loading →
    (b.load c.fingerprint m.cache.store).1 = none) : (m.advance b i).bare = m.bare.advance .none i := by
  have hcallers : m.bare.callers = m.callers := rfl
  simp only [advance, hcallers]
  cases hi : m.callers[i]? with
  | none => rfl
  | some c =>
    cases hs : c.stage with
    | waiting => simp only [hs]; exact bare_await m i c
    | loading =>
      simp only [hs, consult]
      rcases hload : b.load c.fingerprint m.cache.store with ⟨found, store⟩
      obtain rfl : found = none := by
        have hnone := hnothing hi hs
        rwa [hload] at hnone
      rfl
    | rendering =>
      simp only [hs]
      cases c.outcome.get with
      | ok markup => rfl
      | error e => exact bare_fail m i c e
    | saving markup => simp only [hs]; rfl
    | done result => simp only [hs]
    | abandoned => simp only [hs]

theorem bare_abandon (m : Machine σ ε) (i : Nat) : (m.abandon i).bare = m.bare.abandon i := by
  have hcallers : m.bare.callers = m.callers := rfl
  simp only [abandon, hcallers]
  cases hi : m.callers[i]? with
  | none => rfl
  | some c => cases hs : c.stage <;> simp only [hs] <;> rfl

/-! ## What the store has -/

/-- A step leaves the store alone, or it is one access: a load, or a save of markup that the cache
then has. -/
theorem Step.store_cases (hm : m.Coherent) (h : Step b m m') :
    m'.cache.store = m.cache.store ∨
      ∃ a, m'.cache.store = b.access m.cache.store a ∧ ∀ f markup, a = .save f markup → (m'.cache.get f).isSome := by
  cases h with
  | @found i c markup store hi hs hb =>
    refine Or.inr ⟨.load c.fingerprint, ?_, nofun⟩
    rw [Backing.access, hb]
    rfl
  | @missed i c store hi hs hb =>
    refine Or.inr ⟨.load c.fingerprint, ?_, nofun⟩
    rw [Backing.access, hb]
    rfl
  | @saved i c markup hi hs =>
    refine Or.inr ⟨.save c.fingerprint markup, rfl, ?_⟩
    rintro f markup' ⟨⟩
    have hget := get_complete hm hi (by rw [hs]; rfl) (b.save c.fingerprint markup m.cache.store)
      ⟨c.fingerprint, markup⟩ c.fingerprint
    rw [if_pos rfl] at hget
    exact Option.isSome_iff_exists.mpr ⟨_, hget⟩
  | failed hi hs ho => exact Or.inl (store_discard ..)
  | hit | join | begin | serve | turn | rendered | abandoned => exact Or.inl rfl

/-- What the store has been handed, the cache has. -/
structure Held (b : Backing σ) (kept : σ) (m : Machine σ ε) : Prop where
  coherent : m.Coherent
  handed : ∃ accesses, m.cache.store = b.reached kept accesses ∧
    ∀ f markup, .save f markup ∈ accesses → (m.cache.get f).isSome

theorem Held.start (b : Backing σ) (kept : σ) : Held b kept ({ cache := .start kept, callers := #[] } : Machine σ ε) :=
  ⟨.start kept, [], rfl, nofun⟩

/-- **Every step keeps it so.** -/
theorem Held.step (hm : m.Held b kept) (h : Step b m m') : m'.Held b kept := by
  refine ⟨hm.coherent.step h, ?_⟩
  obtain ⟨accesses, hstore, hhanded⟩ := hm.handed
  have hstays (f : Fingerprint) (markup : String) (hmem : .save f markup ∈ accesses) : (m'.cache.get f).isSome := by
    obtain ⟨d, hd⟩ := Option.isSome_iff_exists.mp (hhanded f markup hmem)
    rw [get_step hm.coherent h hd]
    rfl
  obtain hsame | ⟨a, haccess, hsaved⟩ := h.store_cases hm.coherent
  · exact ⟨accesses, hsame.trans hstore, hstays⟩
  · refine ⟨accesses ++ [a], ?_, ?_⟩
    · rw [b.reached_concat, haccess, hstore]
    · intro f markup hmem
      obtain hmem | hmem := List.mem_append.mp hmem
      · exact hstays f markup hmem
      · exact hsaved f markup (List.mem_singleton.mp hmem).symm

/-- Whoever asks a store that was empty at first learns nothing. -/
theorem Held.load_eq_none (hb : b.Honest kept) (hm : m.Held b kept) {i : Nat} {c : Caller ε}
    (hi : m.callers[i]? = some c) (hs : c.stage = .loading) : (b.load c.fingerprint m.cache.store).1 = none := by
  obtain ⟨accesses, hstore, hhanded⟩ := hm.handed
  cases hfound : (b.load c.fingerprint m.cache.store).1 with
  | none => rfl
  | some markup =>
    -- what is found was saved, and then nobody would have to ask
    rw [hstore] at hfound
    have hsome := hhanded _ _ (hb accesses _ _ hfound)
    rw [hm.coherent.get_of_hasTurn hi (by rw [hs]; rfl)] at hsome
    cases hsome

/-- **A cache over a store that was empty at first goes on as it would without one.** -/
theorem Held.bare_after (hb : b.Honest kept) (hm : m.Held b kept) (events : List (Event ε)) :
    (m.after b events).bare = m.bare.after .none events := by
  induction events generalizing m with
  | nil => rfl
  | cons event events ih =>
    have hnext : (m.happen b event).Held b kept := by
      obtain hsame | hstep := happen_cases (b := b) (m := m) event
      · rwa [hsame]
      · exact hm.step hstep
    have hbare : (m.happen b event).bare = m.bare.happen .none event := by
      cases event with
      | enter f outcome => exact bare_enter m f outcome
      | advance i => exact bare_advance fun hi hs => hm.load_eq_none hb hi hs
      | abandon i => exact bare_abandon m i
    have hrest := ih hnext
    rw [hbare] at hrest
    exact hrest

end Machine

/-! ## Accounts of a history -/

namespace Backing.Division

variable {b : Backing σ} (D : b.Division V)

/-- The answers of a history by the books, and the accounts after it.  A new cache has no
documents. -/
def chronicle (A : Fingerprint → Account V) :
    List (Episode ε) → List (List (Answer ε)) × (Fingerprint → Account V)
  | [] => ([], A)
  | .batch calls :: episodes =>
    let rest := chronicle (D.books A calls) episodes
    (D.answersIn A calls :: rest.1, rest.2)
  | .restart :: episodes => chronicle (fun f => { A f with document := .none }) episodes

end Backing.Division

namespace Cache

variable {b : Backing σ} {kept : σ} {cache cache' : Cache σ} {episodes : List (Episode ε)}
  {answers : List (List (Answer ε))}

/-- **The accounts tell every history**, in whatever order its callers take their turns. -/
theorem Lived.chronicled (D : b.Division V) (h : Lived b cache episodes answers cache')
    (hcache : ({ cache, callers := #[] } : Machine σ ε).Coherent) :
    answers = (D.chronicle (D.account cache) episodes).1 ∧
      D.account cache' = (D.chronicle (D.account cache) episodes).2 := by
  induction h with
  | nil cache => exact ⟨rfl, rfl⟩
  | @batch cache cache' events episodes answers hevents hended rest ih =>
    obtain ⟨hanswers, haccounts⟩ := Machine.after_ended D hcache hevents hended
    have hafter := Machine.after_induction (b := b) (fun hm h => hm.step h) hcache events
    obtain ⟨hrest, hlater⟩ := ih (coherent_of_left hafter hended)
    rw [haccounts] at hrest hlater
    refine ⟨?_, hlater⟩
    rw [hanswers, hrest]
    rfl
  | restart rest ih => exact ih (.start _)

/-- A history of batches over a store that was empty at first is one without a store. -/
theorem Lived.bare (hb : b.Honest kept) (h : Lived b cache episodes answers cache')
    (hbatches : ∀ episode ∈ episodes, episode.isBatch = true)
    (hheld : ({ cache, callers := #[] } : Machine σ ε).Held b kept) :
    Lived .none cache.bare episodes answers cache'.bare := by
  induction h with
  | nil cache => exact .nil cache.bare
  | @batch cache cache' events episodes answers hevents hended rest ih =>
    let settled := ({ cache, callers := #[] } : Machine σ ε).after b events
    have hafter : settled.Held b kept := Machine.after_induction (fun hm h => hm.step h) hheld events
    have hnext : ({ cache := settled.cache, callers := #[] } : Machine σ ε).Held b kept :=
      ⟨coherent_of_left hafter.coherent hended, hafter.handed⟩
    have hrest := ih (fun episode hmem => hbatches episode (List.mem_cons_of_mem _ hmem)) hnext
    have hbare : settled.bare = ({ cache := cache.bare, callers := #[] } : Machine Unit ε).after .none events :=
      hheld.bare_after hb events
    have hcallers : settled.callers = settled.bare.callers := rfl
    have hcache : settled.cache.bare = settled.bare.cache := rfl
    rw [hcache, hbare] at hrest
    rw [hcallers, hbare]
    refine .batch hevents ?_ hrest
    rw [← hbare]
    exact hended
  | restart rest ih => cases hbatches .restart (List.mem_cons_self ..)

end Cache

/-! ## Counting documents -/

namespace Cache

/-- No fingerprint is in the map twice. -/
def Distinct (c : Cache σ) : Prop := (c.entries.map Prod.fst).Nodup

theorem Distinct.lookup_eq_some {c : Cache σ} (hc : c.Distinct) {f : Fingerprint} {s : Nat}
    (hmem : (f, s) ∈ c.entries) : c.entries.lookup f = some s := by
  obtain ⟨front, back, hentries⟩ := List.append_of_mem hmem
  refine List.lookup_eq_some_iff.mpr ⟨front, back, hentries, fun e he => ?_⟩
  -- an earlier entry of the fingerprint would be a second one
  rw [Distinct, hentries, List.map_append, List.map_cons, List.nodup_append] at hc
  exact bne_iff_ne.mpr (hc.2.2 e.1 (List.mem_map_of_mem he) f (List.mem_cons_self ..)).symm

/-- The fingerprints that have a document. -/
def complete (c : Cache σ) : List Fingerprint := (c.entries.filter fun e => (c.documentIn e.2).isSome).map Prod.fst

theorem length_complete (c : Cache σ) : c.complete.length = c.size := List.length_map ..

theorem Distinct.nodup_complete {c : Cache σ} (hc : c.Distinct) : c.complete.Nodup :=
  hc.sublist (List.filter_sublist.map Prod.fst)

theorem Distinct.mem_complete_iff {c : Cache σ} (hc : c.Distinct) {f : Fingerprint} :
    f ∈ c.complete ↔ (c.get f).isSome = true := by
  rw [complete, List.mem_map]
  constructor
  · rintro ⟨⟨f, s⟩, hmem, rfl⟩
    obtain ⟨hentry, hsome⟩ := List.mem_filter.mp hmem
    rw [Cache.get, hc.lookup_eq_some hentry]
    exact hsome
  · intro hget
    obtain ⟨d, hd⟩ := Option.isSome_iff_exists.mp hget
    obtain ⟨s, hl, hs⟩ := Machine.get_eq_some.mp hd
    obtain ⟨front, back, hentries, -⟩ := List.lookup_eq_some_iff.mp hl
    have hmem : (f, s) ∈ c.entries := by
      rw [hentries]
      exact List.mem_append_right _ (List.mem_cons_self ..)
    refine ⟨(f, s), List.mem_filter.mpr ⟨hmem, ?_⟩, rfl⟩
    rw [hs]
    rfl

/-- Caches that find the same documents have as many. -/
theorem Distinct.size_eq {τ : Type} {c : Cache σ} {c' : Cache τ} (hc : c.Distinct) (hc' : c'.Distinct)
    (hget : ∀ f, c.get f = c'.get f) : c.size = c'.size := by
  rw [← length_complete, ← length_complete]
  refine ((List.perm_ext_iff_of_nodup hc.nodup_complete hc'.nodup_complete).mpr fun f => ?_).length_eq
  rw [hc.mem_complete_iff, hc'.mem_complete_iff, hget]

end Cache
namespace Machine

variable {b : Backing σ} {m m' : Machine σ ε}

/-- A step adds a fingerprint that is not in the map, or takes one out. -/
theorem Step.distinct (h : Step b m m') (hm : m.cache.Distinct) : m'.cache.Distinct := by
  cases h with
  | @begin f outcome hl =>
    show ((m.cache.entries ++ [(f, m.cache.slots.size)]).map Prod.fst).Nodup
    rw [List.map_append, List.nodup_append]
    refine ⟨hm, List.pairwise_singleton _ f, fun g hg g' hg' => ?_⟩
    obtain ⟨e, he, rfl⟩ := List.mem_map.mp hg
    obtain rfl : g' = f := List.mem_singleton.mp hg'
    exact (bne_iff_ne.mp (List.lookup_eq_none_iff.mp hl e he)).symm
  | @failed i c e hi hs ho =>
    show ((m.cache.leave c.slot i).discard c.fingerprint c.slot).Distinct
    obtain hsame | ⟨slot, -, -, -, -, hgone⟩ := discard_cases (m.cache.leave c.slot i) c.fingerprint c.slot
    · rw [hsame]
      exact hm
    · rw [hgone]
      exact hm.sublist (List.filter_sublist.map Prod.fst)
  | hit | join | serve | turn | found | missed | rendered | saved | abandoned => exact hm

end Machine
namespace Cache

variable {b : Backing σ} {kept : σ} {cache cache' : Cache σ} {episodes : List (Episode ε)}
  {answers : List (List (Answer ε))}

theorem Lived.distinct (h : Lived b cache episodes answers cache') (hcache : cache.Distinct) : cache'.Distinct := by
  induction h with
  | nil cache => exact hcache
  | @batch cache cache' events episodes answers hevents hended rest ih =>
    exact ih (Machine.after_induction (P := fun m => m.cache.Distinct) (fun hm h => h.distinct hm) hcache events)
  | restart rest ih => exact ih .nil

/-! ## Histories over a store that fails -/

/-- **A store that fails does no harm.**  Take a store that is empty at first and gives back
nothing but what it was handed, let any of its loads and saves fail, and make any batches of calls
on one cache over it.  They can be lived to their ends, and so can the same batches on a cache
without a store; and however the callers take their turns in either, every call gets the same
result and runs its render function in the same cases, and afterwards the caches find the same
documents and count as many. -/
theorem failing_store_harmless {b : Backing σ} {kept : σ} (hb : b.Honest kept) (fails : Nat → Bool)
    (batches : List (List (Call ε))) :
    let history := batches.map Episode.batch
    (∃ answers cache, Lived (b.failing fails) (.start (0, kept)) history answers cache) ∧
      (∃ answers cache, Lived .none (.start ()) history answers cache) ∧
      ∀ {answers answers' : List (List (Answer ε))} {cache : Cache (Nat × σ)} {cache' : Cache Unit},
        Lived (b.failing fails) (.start (0, kept)) history answers cache →
        Lived .none (.start ()) history answers' cache' →
        answers = answers' ∧ (∀ f, cache.get f = cache'.get f) ∧ cache.size = cache'.size := by
  intro history
  refine ⟨exists_lived (.start _) history, exists_lived (.start ()) history, ?_⟩
  intro answers answers' cache cache' h h'
  have hbatches : ∀ episode ∈ history, episode.isBatch = true := by
    intro episode hmem
    obtain ⟨calls, -, rfl⟩ := List.mem_map.mp hmem
    rfl
  have hbare : Lived .none (.start ()) history answers cache.bare :=
    h.bare (hb.failing fails) hbatches (.start _ _)
  obtain ⟨hanswers, haccounts⟩ := hbare.chronicled .trivial (.start ())
  obtain ⟨hanswers', haccounts'⟩ := h'.chronicled .trivial (.start ())
  have hget (f : Fingerprint) : cache.get f = cache'.get f :=
    congrArg Account.document (congrFun (haccounts.trans haccounts'.symm) f)
  exact ⟨hanswers.trans hanswers'.symm, hget, (h.distinct .nil).size_eq (h'.distinct .nil) hget⟩

/-- Two batches for two fingerprints: the first call of each batch decides what the later ones get. -/
def twoBatches : List (List (Call Unit)) :=
  [[(⟨"g"⟩, .pure (.error ())), (⟨"f"⟩, .pure (.ok "a")), (⟨"f"⟩, .pure (.ok "b"))],
    [(⟨"g"⟩, .pure (.ok "c")), (⟨"f"⟩, .pure (.error ())), (⟨"g"⟩, .pure (.ok "d"))]]

/-- Every other access comes to nothing. -/
def everyOther (n : Nat) : Bool := n % 2 == 0

theorem failing_store_harmless_shelf :
    ∃ answers cache cache',
      Lived ((Backing.shelf false false).failing everyOther) (.start (0, ∅)) (twoBatches.map .batch) answers cache ∧
      Lived .none (.start ()) (twoBatches.map .batch) answers cache' ∧
      answers = [[⟨some (.error ()), true⟩, ⟨some (.ok ⟨⟨"f"⟩, "a"⟩), true⟩, ⟨some (.ok ⟨⟨"f"⟩, "a"⟩), false⟩],
        [⟨some (.ok ⟨⟨"g"⟩, "c"⟩), true⟩, ⟨some (.ok ⟨⟨"f"⟩, "a"⟩), false⟩, ⟨some (.ok ⟨⟨"g"⟩, "c"⟩), false⟩]] ∧
      cache.get ⟨"g"⟩ = some ⟨⟨"g"⟩, "c"⟩ ∧ cache.size = cache'.size := by
  obtain ⟨⟨answers, cache, h⟩, ⟨answers', cache', h'⟩, hsame⟩ :=
    failing_store_harmless (Backing.honest_shelf false false) everyOther twoBatches
  obtain ⟨rfl, hget, hsize⟩ := hsame h h'
  obtain ⟨hanswers, haccounts⟩ := h'.chronicled .trivial (.start ())
  refine ⟨answers, cache, cache', h, h', hanswers.trans rfl, ?_, hsize⟩
  exact (hget _).trans ((congrArg Account.document (congrFun haccounts ⟨"g"⟩)).trans rfl)

end Cache
end Galley
