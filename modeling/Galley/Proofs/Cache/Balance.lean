import Galley.Proofs.Cache.Ledger

/-! # The books of a running cache

Callers of one fingerprint end in the order in which they came: they queue for its slot, and
whoever ends its turn without a document leaves it to the next one.  So at every moment there
is a number `n` such that the calls for the fingerprint before the `n`th have ended, and the
later ones have found nothing yet (`Machine.Settled`): what the cache and the backing have of the
fingerprint is what the books say after the first `n` calls.  Together with the answers given
so far this is `Machine.Balanced`, and every step but an abandonment keeps it
(`Balanced.step`). -/
namespace Galley
open Cache

variable {σ ε V : Type}

namespace Cache

/-- The stages of a caller that has asked the backing in vain. -/
def Stage.started : Stage ε → Bool
  | .rendering => true
  | .saving _ => true
  | _ => false

theorem Stage.hasTurn_of_started {stage : Stage ε} (h : stage.started = true) : stage.hasTurn = true := by
  cases stage <;> first | rfl | cases h

/-! ## What the cache finds after a change -/

theorem get_enqueue (c : Cache σ) (s i : Nat) (f : Fingerprint) : (c.enqueue s i).get f = c.get f :=
  congrArg (Option.bind (c.entries.lookup f)) (funext (documentIn_enqueue c s i))

theorem get_addSlot (c : Cache σ) {f : Fingerprint} (hl : c.entries.lookup f = none) (i : Nat) (g : Fingerprint) :
    (c.addSlot f i).get g = c.get g := by
  rw [Cache.get, lookup_addSlot c hl, funext (documentIn_addSlot c f i), Cache.get]
  by_cases hg : g = f
  · rw [if_pos hg, hg, hl, Option.bind_some, documentIn, Array.getElem?_eq_none (Nat.le_refl _)]
    rfl
  · rw [if_neg hg]

/-- Only an empty slot is discarded. -/
theorem get_discard_eq (c : Cache σ) (f : Fingerprint) (s : Nat) (g : Fingerprint) :
    (c.discard f s).get g = c.get g := by
  obtain hsame | ⟨slot, hl, hslot, hempty, -, hgone⟩ := discard_cases c f s
  · rw [hsame]
  · rw [hgone]
    show ((c.entries.filter fun e => e.1 != f).lookup g).bind c.documentIn = c.get g
    rw [lookup_filter_ne, Cache.get]
    by_cases hg : g = f
    · rw [if_pos hg, hg, hl, Option.bind_some, Option.bind_none, documentIn, hslot, Option.bind_some, hempty]
    · rw [if_neg hg]

theorem queueIn_discard (c : Cache σ) (f : Fingerprint) (s t : Nat) :
    (c.discard f s).queueIn t = c.queueIn t := by
  obtain hsame | ⟨slot, -, -, -, -, hgone⟩ := discard_cases c f s
  · rw [hsame]
  · rw [hgone]
    rfl

/-- Who leaves a slot leaves the others in order. -/
theorem queueIn_leave_sublist (c : Cache σ) (s i t : Nat) :
    ((c.leave s i).queueIn t).Sublist (c.queueIn t) := by
  rw [queueIn_leave]
  split
  · exact List.filter_sublist
  · exact .refl _

theorem queueIn_fill_leave_sublist (c : Cache σ) (s i t : Nat) (document : Rendered) :
    (((c.fill s document).leave s i).queueIn t).Sublist (c.queueIn t) := by
  have h := (c.fill s document).queueIn_leave_sublist s i t
  rwa [queueIn_fill] at h

end Cache
namespace Machine

variable {b : Backing σ} {D : b.Division V} {A : Fingerprint → Account V} {m m' : Machine σ ε}
  {f : Fingerprint} {n : Nat}

theorem calls_arrive (cache : Cache σ) (outcome : Thunk (Except ε String)) (slot : Nat) (stage : Stage ε) :
    (m.arrive cache f outcome slot stage).calls = m.calls ++ [(f, outcome)] := by
  rw [calls, arrive, Array.toList_push, List.map_append]
  rfl

/-- The books after the first `n` calls. -/
def booked (D : b.Division V) (A : Fingerprint → Account V) (m : Machine σ ε) (n : Nat) :
    Fingerprint → Account V :=
  D.books A (m.calls.take n)

theorem booked_arrive (cache : Cache σ) (outcome : Thunk (Except ε String)) (slot : Nat) (stage : Stage ε)
    (hn : n ≤ m.callers.size) : booked D A (m.arrive cache f outcome slot stage) n = booked D A m n := by
  rw [booked, calls_arrive, List.take_append_of_le_length (m.length_calls ▸ hn), booked]

theorem booked_modifyCaller (cache : Cache σ) {i : Nat} {change : Caller ε → Caller ε}
    (hcall : ∀ c, (change c).call = c.call) :
    booked D A (({ m with cache } : Machine σ ε).modifyCaller i change) n = booked D A m n := by
  rw [booked, calls_modifyCaller cache hcall, booked]

theorem booked_setStage (cache : Cache σ) (i : Nat) (stage : Stage ε) :
    booked D A (({ m with cache } : Machine σ ε).setStage i stage) n = booked D A m n :=
  booked_modifyCaller cache fun _ => rfl

/-! ## The invariant -/

/-- The calls for `f` have been settled up to the `n`th: the books after the first `n` calls
say what the cache and its backing have of `f`, and the callers that came later have found
nothing. -/
structure Settled (D : b.Division V) (A : Fingerprint → Account V) (m : Machine σ ε) (f : Fingerprint)
    (n : Nat) : Prop where
  le : n ≤ m.callers.size
  document : (booked D A m n f).document = m.cache.get f
  /-- Whoever has a slot in hand came later. -/
  ahead : ∀ {i : Nat} {c : Caller ε}, m.callers[i]? = some c → c.fingerprint = f →
    c.stage.holds = true → n ≤ i
  /-- As long as there is no document, whoever came later has a slot in hand. -/
  holds : m.cache.get f = none → ∀ {i : Nat} {c : Caller ε}, m.callers[i]? = some c → c.fingerprint = f →
    n ≤ i → c.stage.holds = true
  /-- While nobody has asked the backing in vain, it has what the books say, -/
  idle : (∀ (i : Nat) (c : Caller ε), m.callers[i]? = some c → c.fingerprint = f → c.stage.started = false) →
    D.part f m.cache.store = (booked D A m n f).part
  /-- and once someone has, what that load made of it. -/
  asked : ∀ {i : Nat} {c : Caller ε}, m.callers[i]? = some c → c.fingerprint = f → c.stage.started = true →
    D.load f (booked D A m n f).part = (none, D.part f m.cache.store)

/-- What a caller has in hand, if its call meets the account `a`: whoever has ended was
answered as that account answers. -/
structure Due (D : b.Division V) (a : Account V) (c : Caller ε) : Prop where
  ran : c.stage.holds = true → c.ran = c.stage.started
  saving : ∀ {markup}, c.stage = .saving markup → c.outcome.get = .ok markup
  done : ∀ {result}, c.stage = .done result → c.answer = (D.serve a c.call).1

theorem Due.of_done {a : Account V} {c : Caller ε} {result : Except ε Rendered} (hs : c.stage = .done result)
    (h : c.answer = (D.serve a c.call).1) : Due D a c where
  ran hholds := by
    rw [hs] at hholds
    cases hholds
  saving hsaving := by cases hs.symm.trans hsaving
  done _ := h

/-- The books of a machine whose callers found the accounts `A`. -/
structure Balanced (D : b.Division V) (A : Fingerprint → Account V) (m : Machine σ ε) : Prop where
  coherent : m.Coherent
  /-- Callers queue in order of arrival. -/
  orderly : ∀ s, (m.cache.queueIn s).Pairwise (· < ·)
  settled : ∀ f, ∃ n, Settled D A m f n
  due : ∀ {i : Nat} {c : Caller ε}, m.callers[i]? = some c → Due D (booked D A m i c.fingerprint) c

/-- A cache without callers, with the accounts that it has itself. -/
theorem Balanced.start (D : b.Division V) {cache : Cache σ}
    (hcache : ({ cache, callers := #[] } : Machine σ ε).Coherent) :
    Balanced D (D.account cache) ({ cache, callers := #[] } : Machine σ ε) where
  coherent := hcache
  orderly s := by
    have hempty : cache.queueIn s = [] := by
      refine List.eq_nil_iff_forall_not_mem.mpr fun i hi => ?_
      obtain ⟨c, hc, -⟩ := hcache.queued_iff.mp hi
      simp at hc
    rw [hempty]
    exact .nil
  settled f := ⟨0, Nat.le_refl 0, rfl, fun h => by simp at h, fun _ _ _ h => by simp at h, fun _ => rfl,
    fun h => by simp at h⟩
  due h := by simp at h

/-- With a document there, every later call meets the account that has it. -/
theorem Settled.booked_of_document (hn : Settled D A m f n) {d : Rendered} (hd : m.cache.get f = some d)
    {i : Nat} (hni : n ≤ i) : booked D A m i f = booked D A m n f :=
  Backing.Division.books_take_of_document hni (hn.document.trans hd)

/-! ## Arrivals -/

/-- A caller that arrives comes last, so the calls remain settled up to the same one. -/
theorem Settled.arrive {g : Fingerprint} (hn : Settled D A m g n) {cache : Cache σ}
    {outcome : Thunk (Except ε String)} {slot : Nat} {stage : Stage ε} (hget : cache.get g = m.cache.get g)
    (hstore : cache.store = m.cache.store)
    (hstage : stage = .waiting ∨ ∃ d, m.cache.get f = some d ∧ stage = .done (.ok d)) :
    Settled D A (m.arrive cache f outcome slot stage) g n := by
  have hbooked : booked D A (m.arrive cache f outcome slot stage) n = booked D A m n :=
    booked_arrive cache outcome slot stage hn.le
  refine ⟨?_, ?_, ?_, ?_, ?_, ?_⟩
  · rw [Machine.arrive, Array.size_push]
    exact Nat.le_succ_of_le hn.le
  · rw [hbooked, hn.document]
    exact hget.symm
  · intro i c hi hprint hs
    obtain hold | ⟨rfl, rfl⟩ := arrive_eq_some.mp hi
    · exact hn.ahead hold hprint hs
    · exact hn.le
  · intro hnone i c hi hprint hni
    have hnone' : m.cache.get g = none := hget.symm.trans hnone
    obtain hold | ⟨rfl, rfl⟩ := arrive_eq_some.mp hi
    · exact hn.holds hnone' hold hprint hni
    · obtain rfl | ⟨d, hd, -⟩ := hstage
      · rfl
      · cases hprint
        cases hnone'.symm.trans hd
  · intro hidle
    rw [hbooked, ← hn.idle fun i c hi => hidle i c (arrive_eq_some.mpr (Or.inl hi))]
    exact congrArg (D.part g) hstore
  · intro i c hi hprint hs
    obtain hold | ⟨-, rfl⟩ := arrive_eq_some.mp hi
    · rw [hbooked, hn.asked hold hprint hs]
      exact congrArg (fun s => (none, D.part g s)) hstore.symm
    · obtain rfl | ⟨d, -, rfl⟩ := hstage <;> cases hs

/-- A caller that is answered at once is answered as the books say. -/
theorem Settled.due_of_document (hn : Settled D A m f n) {d : Rendered} (hd : m.cache.get f = some d)
    (outcome : Thunk (Except ε String)) (slot : Nat) :
    Due D (booked D A m m.callers.size f) ⟨f, outcome, slot, .done (.ok d), false⟩ := by
  refine .of_done rfl ?_
  rw [hn.booked_of_document hd hn.le, Backing.Division.serve_of_document (hn.document.trans hd)]
  rfl

/-- A caller arrives: it waits, or a document answers it at once. -/
theorem Balanced.arrive (hm : Balanced D A m) {cache : Cache σ} {outcome : Thunk (Except ε String)} {slot : Nat}
    {stage : Stage ε} (hcoherent : (m.arrive cache f outcome slot stage).Coherent)
    (horderly : ∀ s, (cache.queueIn s).Pairwise (· < ·)) (hget : ∀ g, cache.get g = m.cache.get g)
    (hstore : cache.store = m.cache.store)
    (hstage : stage = .waiting ∨ ∃ d, m.cache.get f = some d ∧ stage = .done (.ok d)) :
    Balanced D A (m.arrive cache f outcome slot stage) where
  coherent := hcoherent
  orderly := horderly
  settled g := (hm.settled g).imp fun _ hn => hn.arrive (hget g) hstore hstage
  due := by
    intro i c hi
    obtain hold | ⟨rfl, rfl⟩ := arrive_eq_some.mp hi
    · rw [booked_arrive _ _ _ _ (Nat.le_of_lt (Array.getElem?_eq_some_iff.mp hold).1)]
      exact hm.due hold
    · rw [booked_arrive _ _ _ _ (Nat.le_refl _)]
      obtain rfl | ⟨d, hd, rfl⟩ := hstage
      · exact ⟨fun _ => rfl, (fun h => by cases h), (fun h => by cases h)⟩
      · obtain ⟨n, hn⟩ := hm.settled f
        exact hn.due_of_document hd outcome slot

/-! ## Moves of one caller -/

/-- What a move of one caller leaves to a fingerprint that is not its own. -/
theorem Settled.other (hn : Settled D A m f n) {cache : Cache σ} {i : Nat} {c : Caller ε}
    {change : Caller ε → Caller ε} (hi : m.callers[i]? = some c) (hne : c.fingerprint ≠ f)
    (hcall : ∀ c, (change c).call = c.call) (hget : cache.get f = m.cache.get f)
    (hpart : D.part f cache.store = D.part f m.cache.store) :
    Settled D A (({ m with cache } : Machine σ ε).modifyCaller i change) f n := by
  have hprint (c : Caller ε) : (change c).fingerprint = c.fingerprint := congrArg Prod.fst (hcall c)
  -- the callers of `f` are the ones that there were
  have hsame {j : Nat} {d : Caller ε} (hd : d.fingerprint = f) :
      (({ m with cache } : Machine σ ε).modifyCaller i change).callers[j]? = some d ↔ m.callers[j]? = some d := by
    rw [modifyCaller_eq_some]
    constructor
    · rintro (⟨-, hold⟩ | ⟨rfl, d, hold, rfl⟩)
      · exact hold
      · obtain rfl := Option.some.inj (hi.symm.trans hold)
        exact absurd ((hprint c).symm.trans hd) hne
    · intro hold
      refine Or.inl ⟨?_, hold⟩
      rintro rfl
      obtain rfl := Option.some.inj (hi.symm.trans hold)
      exact hne hd
  refine ⟨?_, ?_, ?_, ?_, ?_, ?_⟩
  · exact Nat.le_trans hn.le (Nat.le_of_eq Array.size_modify.symm)
  · rw [booked_modifyCaller cache hcall, hn.document]
    exact hget.symm
  · exact fun hj hd => hn.ahead ((hsame hd).mp hj) hd
  · exact fun hnone _ _ hj hd => hn.holds (hget.symm.trans hnone) ((hsame hd).mp hj) hd
  · intro hidle
    rw [booked_modifyCaller cache hcall, ← hn.idle fun j d hj hd => hidle j d ((hsame hd).mpr hj) hd]
    exact hpart
  · intro j d hj hd hs
    rw [booked_modifyCaller cache hcall, hn.asked ((hsame hd).mp hj) hd hs]
    exact congrArg (Prod.mk none) hpart.symm

/-- Whoever else has the slot of the first in a queue in hand came later, and waits. -/
theorem Balanced.behind_first (hm : Balanced D A m) {i : Nat} {c : Caller ε} (hi : m.callers[i]? = some c)
    (hs : c.stage.holds = true) (hfirst : (m.cache.queueIn c.slot).head? = some i) {j : Nat} {d : Caller ε}
    (hj : m.callers[j]? = some d) (hprint : d.fingerprint = c.fingerprint) (hd : d.stage.holds = true)
    (hne : j ≠ i) : i < j ∧ d.stage.hasTurn = false := by
  have hslot : d.slot = c.slot := by
    have hled := hm.coherent.led hj hd
    rw [hprint, hm.coherent.led hi hs] at hled
    exact (Option.some.inj hled).symm
  have hqueued : j ∈ m.cache.queueIn c.slot := hm.coherent.queued_iff.mpr ⟨d, hj, hslot, hd⟩
  refine ⟨?_, Bool.eq_false_iff.mpr fun hturn => hne ?_⟩
  · have hsorted := hm.orderly c.slot
    cases hqueue : m.cache.queueIn c.slot with
    | nil =>
      rw [hqueue] at hqueued
      cases hqueued
    | cons k more =>
      rw [hqueue] at hfirst hqueued hsorted
      cases hfirst
      obtain rfl | hmore := List.mem_cons.mp hqueued
      · exact absurd rfl hne
      · exact (List.pairwise_cons.mp hsorted).1 j hmore
  · have hhead := (hm.coherent.first hj hturn).2
    rw [hslot, hfirst] at hhead
    exact (Option.some.inj hhead).symm

/-- While it is not a caller's turn, nobody for its fingerprint has asked the backing. -/
theorem Balanced.started_eq_false (hm : Balanced D A m) {i : Nat} {c : Caller ε} (hi : m.callers[i]? = some c)
    (hs : c.stage.holds = true) (hfirst : (m.cache.queueIn c.slot).head? = some i) {j : Nat} {d : Caller ε}
    (hj : m.callers[j]? = some d) (hprint : d.fingerprint = c.fingerprint) (hne : j ≠ i) :
    d.stage.started = false := by
  refine Bool.eq_false_iff.mpr fun hd => ?_
  have hturn := Stage.hasTurn_of_started hd
  obtain ⟨-, hwaits⟩ := hm.behind_first hi hs hfirst hj hprint (Stage.holds_of_hasTurn hturn) hne
  rw [hturn] at hwaits
  cases hwaits

/-- Before the first in a queue has asked the backing, that has what the books say. -/
theorem Balanced.part_first (hm : Balanced D A m) {i : Nat} {c : Caller ε} (hi : m.callers[i]? = some c)
    (hs : c.stage.holds = true) (hfirst : (m.cache.queueIn c.slot).head? = some i)
    (hidle : c.stage.started = false) (hn : Settled D A m c.fingerprint n) :
    D.part c.fingerprint m.cache.store = (booked D A m n c.fingerprint).part := by
  refine hn.idle fun j d hj hprint => ?_
  by_cases hij : j = i
  · subst hij
    obtain rfl := Option.some.inj (hi.symm.trans hj)
    exact hidle
  · exact hm.started_eq_false hi hs hfirst hj hprint hij

/-- Nobody ends when the first in a queue goes to another stage of its turn, so the calls remain
settled up to the same one. -/
theorem Settled.restage {i : Nat} {c : Caller ε} (hn : Settled D A m c.fingerprint n) (hm : Balanced D A m)
    (store : σ) {change : Caller ε → Caller ε} (hi : m.callers[i]? = some c) (hs : c.stage.holds = true)
    (hfirst : (m.cache.queueIn c.slot).head? = some i) (hcall : ∀ c, (change c).call = c.call)
    (hstage : (change c).stage.holds = true)
    (hidle : (change c).stage.started = false →
      D.part c.fingerprint store = (booked D A m n c.fingerprint).part)
    (hasked : (change c).stage.started = true →
      D.load c.fingerprint (booked D A m n c.fingerprint).part = (none, D.part c.fingerprint store)) :
    Settled D A ((m.withStore store).modifyCaller i change) c.fingerprint n := by
  have hbooked : booked D A ((m.withStore store).modifyCaller i change) n = booked D A m n :=
    booked_modifyCaller { m.cache with store } hcall
  refine ⟨?_, ?_, ?_, ?_, ?_, ?_⟩
  · exact Nat.le_trans hn.le (Nat.le_of_eq Array.size_modify.symm)
  · rw [hbooked, hn.document]
    rfl
  · intro j d hj hprint hd
    obtain ⟨-, hold⟩ | ⟨rfl, -⟩ := modifyCaller_eq_some.mp hj
    · exact hn.ahead hold hprint hd
    · exact hn.ahead hi rfl hs
  · intro hnone j d hj hprint hnj
    obtain ⟨-, hold⟩ | ⟨rfl, d, hold, rfl⟩ := modifyCaller_eq_some.mp hj
    · exact hn.holds hnone hold hprint hnj
    · obtain rfl := Option.some.inj (hi.symm.trans hold)
      exact hstage
  · intro h
    have hnow := h i _ (modifyCaller_eq_some.mpr (Or.inr ⟨rfl, c, hi, rfl⟩)) (congrArg Prod.fst (hcall c))
    rw [hbooked]
    exact hidle hnow
  · intro j d hj hprint hd
    rw [hbooked]
    obtain ⟨hne, hold⟩ | ⟨rfl, d, hold, rfl⟩ := modifyCaller_eq_some.mp hj
    · cases (hm.started_eq_false hi hs hfirst hold hprint (Ne.symm hne)).symm.trans hd
    · obtain rfl := Option.some.inj (hi.symm.trans hold)
      exact hasked hd

/-- The first in a queue goes to another stage of its turn, while the backing may change what
it has of the fingerprint. -/
theorem Balanced.restage (hm : Balanced D A m) (store : σ) {i : Nat} {c : Caller ε}
    {change : Caller ε → Caller ε}
    (hcoherent : ((m.withStore store).modifyCaller i change).Coherent)
    (hi : m.callers[i]? = some c) (hs : c.stage.holds = true)
    (hfirst : (m.cache.queueIn c.slot).head? = some i) (hcall : ∀ c, (change c).call = c.call)
    (hstage : (change c).stage.holds = true) (hran : (change c).ran = (change c).stage.started)
    (hsaving : ∀ {markup}, (change c).stage = .saving markup → c.outcome.get = .ok markup)
    (hothers : ∀ g, g ≠ c.fingerprint → D.part g store = D.part g m.cache.store)
    (hidle : ∀ {n}, Settled D A m c.fingerprint n → (change c).stage.started = false →
      D.part c.fingerprint store = (booked D A m n c.fingerprint).part)
    (hasked : ∀ {n}, Settled D A m c.fingerprint n → (change c).stage.started = true →
      D.load c.fingerprint (booked D A m n c.fingerprint).part = (none, D.part c.fingerprint store)) :
    Balanced D A ((m.withStore store).modifyCaller i change) where
  coherent := hcoherent
  orderly := hm.orderly
  settled := by
    intro g
    obtain ⟨n, hn⟩ := hm.settled g
    by_cases hg : c.fingerprint = g
    · subst hg
      exact ⟨n, hn.restage hm store hi hs hfirst hcall hstage (hidle hn) (hasked hn)⟩
    · exact ⟨n, hn.other hi hg hcall rfl (hothers g fun h => hg h.symm)⟩
  due := by
    intro j d hj
    rw [show booked D A ((m.withStore store).modifyCaller i change) j = booked D A m j from
      booked_modifyCaller { m.cache with store } hcall]
    obtain ⟨-, hold⟩ | ⟨rfl, d, hold, rfl⟩ := modifyCaller_eq_some.mp hj
    · exact hm.due hold
    · obtain rfl := Option.some.inj (hi.symm.trans hold)
      have hout : (change c).outcome = c.outcome := congrArg Prod.snd (hcall c)
      refine ⟨fun _ => hran, fun h => hout ▸ hsaving h, fun h => ?_⟩
      rw [h] at hstage
      cases hstage

/-- The first at an empty slot meets the account up to which the calls have been settled. -/
theorem Balanced.booked_first (hm : Balanced D A m) {i : Nat} {c : Caller ε} (hi : m.callers[i]? = some c)
    (hs : c.stage.hasTurn = true) (hn : Settled D A m c.fingerprint n) :
    booked D A m i c.fingerprint = booked D A m n c.fingerprint := by
  have hholds := Stage.holds_of_hasTurn hs
  -- a call between the settled ones and the first one would be waiting behind the first one,
  -- and so would have come after it
  refine Backing.Division.books_take_of_others (hn.ahead hi rfl hholds) fun {k call} hnk hki hk hprint => ?_
  rw [getElem?_calls, Option.map_eq_some_iff] at hk
  obtain ⟨d, hd, rfl⟩ := hk
  have hwaits := hn.holds (hm.coherent.get_of_hasTurn hi hs) hd hprint hnk
  obtain ⟨hik, -⟩ := hm.behind_first hi hholds (hm.coherent.first hi hs).2 hd hprint hwaits (Nat.ne_of_lt hki)
  omega

/-- The call of a caller that ends its turn is the next one in the books, and whoever still has the
slot in hand came later. -/
theorem Balanced.settled_finish (hm : Balanced D A m) {cache : Cache σ} {i : Nat} {c : Caller ε}
    {result : Except ε Rendered} (hi : m.callers[i]? = some c) (hs : c.stage.hasTurn = true)
    (hn : Settled D A m c.fingerprint n)
    (hserve : D.serve (booked D A m n c.fingerprint) c.call =
      ({ result := some result, ran := c.ran }, D.account cache c.fingerprint)) :
    Settled D A (({ m with cache } : Machine σ ε).setStage i (.done result)) c.fingerprint (i + 1) := by
  have hholds := Stage.holds_of_hasTurn hs
  have hfirst := (hm.coherent.first hi hs).2
  have hbooked : booked D A (({ m with cache } : Machine σ ε).setStage i (.done result)) (i + 1) c.fingerprint =
      D.account cache c.fingerprint := by
    have hcall : m.calls[i]? = some c.call := by rw [getElem?_calls, hi, Option.map_some]
    rw [booked_setStage, booked, Backing.Division.books_take_succ hcall]
    refine (Backing.Division.post_self _ c.call).trans ?_
    show (D.serve (booked D A m i c.fingerprint) c.call).2 = _
    rw [hm.booked_first hi hs hn, hserve]
  have hlater {j : Nat} {d : Caller ε}
      (hj : (({ m with cache } : Machine σ ε).setStage i (.done result)).callers[j]? = some d)
      (hprint : d.fingerprint = c.fingerprint) (hd : d.stage.holds = true) :
      i < j ∧ d.stage.hasTurn = false := by
    obtain ⟨hne, hold⟩ | ⟨rfl, d, hold, rfl⟩ := setStage_eq_some.mp hj
    · exact hm.behind_first hi hholds hfirst hold hprint hd (Ne.symm hne)
    · cases hd
  refine ⟨?_, ?_, ?_, ?_, ?_, ?_⟩
  · rw [setStage, modifyCaller, Array.size_modify]
    exact (Array.getElem?_eq_some_iff.mp hi).1
  · rw [hbooked]
    rfl
  · exact fun hj hprint hd => (hlater hj hprint hd).1
  · intro _ j d hj hprint hij
    obtain ⟨-, hold⟩ | ⟨rfl, d, hold, rfl⟩ := setStage_eq_some.mp hj
    · refine hn.holds (hm.coherent.get_of_hasTurn hi hs) hold hprint ?_
      exact Nat.le_trans (hn.ahead hi rfl hholds) (Nat.le_of_lt hij)
    · exact absurd hij (Nat.not_succ_le_self i)
  · intro _
    rw [hbooked]
    rfl
  · intro j d hj hprint hd
    have hturn := Stage.hasTurn_of_started hd
    cases (hlater hj hprint (Stage.holds_of_hasTurn hturn)).2.symm.trans hturn

/-- Whoever has its turn ends it as its call does by the books. -/
theorem Balanced.finish (hm : Balanced D A m) {cache : Cache σ} {i : Nat} {c : Caller ε}
    {result : Except ε Rendered}
    (hcoherent : (({ m with cache } : Machine σ ε).setStage i (.done result)).Coherent)
    (hi : m.callers[i]? = some c) (hs : c.stage.hasTurn = true)
    (hqueue : ∀ s, (cache.queueIn s).Sublist (m.cache.queueIn s))
    (hget : ∀ g, g ≠ c.fingerprint → cache.get g = m.cache.get g)
    (hpart : ∀ g, g ≠ c.fingerprint → D.part g cache.store = D.part g m.cache.store)
    (hserve : ∀ {n}, Settled D A m c.fingerprint n → D.serve (booked D A m n c.fingerprint) c.call =
      ({ result := some result, ran := c.ran }, D.account cache c.fingerprint)) :
    Balanced D A (({ m with cache } : Machine σ ε).setStage i (.done result)) where
  coherent := hcoherent
  orderly s := (hm.orderly s).sublist (hqueue s)
  settled := by
    intro g
    obtain ⟨n, hn⟩ := hm.settled g
    by_cases hg : c.fingerprint = g
    · subst hg
      exact ⟨i + 1, hm.settled_finish hi hs hn (hserve hn)⟩
    · exact ⟨n, hn.other hi hg (fun _ => rfl) (hget g fun h => hg h.symm) (hpart g fun h => hg h.symm)⟩
  due := by
    intro j d hj
    rw [booked_setStage]
    obtain ⟨-, hold⟩ | ⟨rfl, d, hold, rfl⟩ := setStage_eq_some.mp hj
    · exact hm.due hold
    · obtain rfl := Option.some.inj (hi.symm.trans hold)
      obtain ⟨n, hn⟩ := hm.settled c.fingerprint
      refine .of_done rfl ?_
      show _ = (D.serve (booked D A m i c.fingerprint) c.call).1
      rw [hm.booked_first hi hs hn, hserve hn]
      rfl

/-- With a document there the books change no more, and the calls remain settled up to the same one
when it is handed to a caller that waited. -/
theorem Settled.serve {i : Nat} {c : Caller ε} {d : Rendered} (hn : Settled D A m c.fingerprint n)
    (hi : m.callers[i]? = some c) (hs : c.stage = .waiting) (hd : m.cache.get c.fingerprint = some d) :
    Settled D A (m.release i c.slot (.done (.ok d))) c.fingerprint n := by
  have hbooked : booked D A (m.release i c.slot (.done (.ok d))) n = booked D A m n := booked_setStage ..
  refine ⟨?_, ?_, ?_, ?_, ?_, ?_⟩
  · exact Nat.le_trans hn.le (Nat.le_of_eq Array.size_modify.symm)
  · rw [hbooked, hn.document]
    exact (get_leave ..).symm
  · intro j e hj hprint he
    obtain ⟨-, hold⟩ | ⟨rfl, e, -, rfl⟩ := setStage_eq_some.mp hj
    · exact hn.ahead hold hprint he
    · cases he
  · intro hnone
    cases ((get_leave ..).symm.trans hnone).symm.trans hd
  · intro h
    rw [hbooked]
    refine hn.idle fun j e hj hprint => ?_
    by_cases hij : i = j
    · subst hij
      obtain rfl := Option.some.inj (hi.symm.trans hj)
      rw [hs]
      rfl
    · exact h j e (setStage_eq_some.mpr (Or.inl ⟨hij, hj⟩)) hprint
  · intro j e hj hprint he
    rw [hbooked]
    obtain ⟨-, hold⟩ | ⟨rfl, e, -, rfl⟩ := setStage_eq_some.mp hj
    · exact hn.asked hold hprint he
    · cases he

/-! ## Every step

Three kinds of steps are arrivals, one serves a caller that waited, three change the stage of a
turn, and three end it. -/

theorem Balanced.hit (hm : Balanced D A m) {outcome : Thunk (Except ε String)} {slot : Nat} {d : Rendered}
    (hl : m.cache.entries.lookup f = some slot) (hd : m.cache.documentIn slot = some d) :
    Balanced D A (m.arrive m.cache f outcome slot (.done (.ok d))) :=
  hm.arrive (hm.coherent.step (b := b) (.hit hl hd)) hm.orderly (fun _ => rfl) rfl
    (Or.inr ⟨d, get_eq_some.mpr ⟨slot, hl, hd⟩, rfl⟩)

theorem Balanced.join (hm : Balanced D A m) {outcome : Thunk (Except ε String)} {slot : Nat}
    (hl : m.cache.entries.lookup f = some slot) (hd : m.cache.documentIn slot = none) :
    Balanced D A (m.arrive (m.cache.enqueue slot m.callers.size) f outcome slot .waiting) := by
  refine hm.arrive (hm.coherent.step (b := b) (.join hl hd)) (fun s => ?_) (get_enqueue _ _ _) rfl (Or.inl rfl)
  rw [queueIn_enqueue _ (hm.coherent.entry_lt hl)]
  split
  · -- whoever queues already came before the new caller
    refine List.pairwise_append.mpr ⟨hm.orderly s, List.pairwise_singleton _ _, fun i hi j hj => ?_⟩
    obtain ⟨c, hc, -⟩ := hm.coherent.queued_iff.mp hi
    rw [List.mem_singleton.mp hj]
    exact (Array.getElem?_eq_some_iff.mp hc).1
  · exact hm.orderly s

theorem Balanced.begin (hm : Balanced D A m) {outcome : Thunk (Except ε String)}
    (hl : m.cache.entries.lookup f = none) :
    Balanced D A (m.arrive (m.cache.addSlot f m.callers.size) f outcome m.cache.slots.size .waiting) := by
  refine hm.arrive (hm.coherent.step (b := b) (.begin hl)) (fun s => ?_) (get_addSlot _ hl _) rfl (Or.inl rfl)
  rw [queueIn_addSlot]
  split
  · exact List.pairwise_singleton _ _
  · exact hm.orderly s

section Turns
variable {i : Nat} {c : Caller ε}

/-- A caller that waited is served with the document of another one. -/
theorem Balanced.serve (hm : Balanced D A m) {d : Rendered} (hi : m.callers[i]? = some c)
    (hs : c.stage = .waiting) (hd : m.cache.documentIn c.slot = some d) :
    Balanced D A (m.release i c.slot (.done (.ok d))) := by
  have hholds : c.stage.holds = true := by rw [hs]; rfl
  have hget : m.cache.get c.fingerprint = some d := get_eq_some.mpr ⟨c.slot, hm.coherent.led hi hholds, hd⟩
  refine ⟨hm.coherent.step (b := b) (.serve hi hs hd), fun s => (hm.orderly s).sublist (queueIn_leave_sublist ..),
    fun g => ?_, ?_⟩
  · obtain ⟨n, hn⟩ := hm.settled g
    by_cases hg : c.fingerprint = g
    · subst hg
      exact ⟨n, hn.serve hi hs hget⟩
    · exact ⟨n, hn.other hi hg (fun _ => rfl) (get_leave ..) rfl⟩
  · intro j e hj
    rw [Machine.release, booked_setStage]
    obtain ⟨-, hold⟩ | ⟨rfl, e, hold, rfl⟩ := setStage_eq_some.mp hj
    · exact hm.due hold
    · obtain rfl := Option.some.inj (hi.symm.trans hold)
      obtain ⟨n, hn⟩ := hm.settled c.fingerprint
      have hran := (hm.due hi).ran hholds
      rw [hs] at hran
      refine .of_done rfl ?_
      show _ = (D.serve (booked D A m i c.fingerprint) c.call).1
      rw [hn.booked_of_document hget (hn.ahead hi rfl hholds),
        Backing.Division.serve_of_document (hn.document.trans hget), Caller.answer]
      exact congrArg (Answer.mk (some (.ok d))) hran

theorem Balanced.turn (hm : Balanced D A m) {slot : Slot} (hi : m.callers[i]? = some c) (hs : c.stage = .waiting)
    (hslot : m.cache.slots[c.slot]? = some slot) (hd : slot.document = none) (hq : slot.queue.head? = some i) :
    Balanced D A (m.setStage i .loading) := by
  have hfirst : (m.cache.queueIn c.slot).head? = some i := by
    rw [queueIn, hslot, Option.map_some, Option.getD_some, hq]
  have hholds : c.stage.holds = true := by rw [hs]; rfl
  have hidle : c.stage.started = false := by rw [hs]; rfl
  exact hm.restage m.cache.store (hm.coherent.step (b := b) (.turn hi hs hslot hd hq)) hi hholds hfirst
    (fun _ => rfl) rfl (((hm.due hi).ran hholds).trans hidle)
    (fun h => by cases h) (fun _ _ => rfl) (fun hn _ => hm.part_first hi hholds hfirst hidle hn)
    fun _ h => by cases h

theorem Balanced.missed (hm : Balanced D A m) {store : σ} (hi : m.callers[i]? = some c) (hs : c.stage = .loading)
    (hb : b.load c.fingerprint m.cache.store = (none, store)) :
    Balanced D A ((m.withStore store).modifyCaller i fun c => { c with stage := .rendering, ran := true }) := by
  have hturn : c.stage.hasTurn = true := by rw [hs]; rfl
  have hholds := Stage.holds_of_hasTurn hturn
  have hfirst := (hm.coherent.first hi hturn).2
  refine hm.restage store (hm.coherent.step (.missed hi hs hb)) hi hholds hfirst (fun _ => rfl) rfl rfl
    (fun h => by cases h) (fun g hg => Backing.Division.part_of_load hb hg) (fun _ h => by cases h) fun hn _ => ?_
  rw [← hm.part_first hi hholds hfirst (by rw [hs]; rfl) hn]
  exact Backing.Division.load_part hb

theorem Balanced.rendered (hm : Balanced D A m) {markup : String} (hi : m.callers[i]? = some c)
    (hs : c.stage = .rendering) (ho : c.outcome.get = .ok markup) : Balanced D A (m.setStage i (.saving markup)) := by
  have hturn : c.stage.hasTurn = true := by rw [hs]; rfl
  have hholds := Stage.holds_of_hasTurn hturn
  have hstarted : c.stage.started = true := by rw [hs]; rfl
  refine hm.restage m.cache.store (hm.coherent.step (b := b) (.rendered hi hs ho)) hi hholds
    (hm.coherent.first hi hturn).2 (fun _ => rfl) rfl (((hm.due hi).ran hholds).trans hstarted) ?_ (fun _ _ => rfl)
    (fun _ h => by cases h) (fun hn _ => hn.asked hi rfl hstarted)
  rintro markup' ⟨⟩
  exact ho

/-- What a caller that fills its slot leaves of the cache. -/
theorem get_complete (hm : m.Coherent) (hi : m.callers[i]? = some c) (hs : c.stage.holds = true) (store : σ)
    (d : Rendered) (g : Fingerprint) :
    (({ m.cache with store }.fill c.slot d).leave c.slot i).get g =
      if g = c.fingerprint then some d else m.cache.get g := by
  have hl := hm.led hi hs
  rw [get_leave]
  show (m.cache.entries.lookup g).bind (m.cache.fill c.slot d).documentIn = _
  by_cases hg : g = c.fingerprint
  · rw [if_pos hg, hg, hl, Option.bind_some, documentIn_fill, if_pos ⟨rfl, hm.entry_lt hl⟩]
  · rw [if_neg hg, Cache.get]
    refine Option.bind_congr fun s hsome => ?_
    rw [documentIn_fill, if_neg]
    rintro ⟨rfl, -⟩
    exact hg (hm.entry_inj hsome hl)

theorem Balanced.found (hm : Balanced D A m) {markup : String} {store : σ} (hi : m.callers[i]? = some c)
    (hs : c.stage = .loading) (hb : b.load c.fingerprint m.cache.store = (some markup, store)) :
    Balanced D A ((m.withStore store).complete i c markup) := by
  have hturn : c.stage.hasTurn = true := by rw [hs]; rfl
  have hholds := Stage.holds_of_hasTurn hturn
  have hidle : c.stage.started = false := by rw [hs]; rfl
  have hget := get_complete hm.coherent hi hholds store ⟨c.fingerprint, markup⟩
  refine hm.finish (hm.coherent.step (.found hi hs hb)) hi hturn (fun s => queueIn_fill_leave_sublist ..)
    (fun g hg => (hget g).trans (if_neg hg)) (fun g hg => Backing.Division.part_of_load hb hg) fun hn => ?_
  have hload := Backing.Division.load_part (D := D) hb
  rw [hm.part_first hi hholds (hm.coherent.first hi hturn).2 hidle hn] at hload
  rw [Backing.Division.serve_of_found (hn.document.trans (hm.coherent.get_of_hasTurn hi hturn)) hload,
    (hm.due hi).ran hholds, hidle]
  exact congrArg (fun found => (_, Account.mk found _)) ((hget c.fingerprint).trans (if_pos rfl)).symm

theorem Balanced.failed (hm : Balanced D A m) {e : ε} (hi : m.callers[i]? = some c) (hs : c.stage = .rendering)
    (ho : c.outcome.get = .error e) : Balanced D A (m.fail i c e) := by
  have hturn : c.stage.hasTurn = true := by rw [hs]; rfl
  have hstarted : c.stage.started = true := by rw [hs]; rfl
  have hnone := hm.coherent.get_of_hasTurn hi hturn
  have hget (g : Fingerprint) : ((m.cache.leave c.slot i).discard c.fingerprint c.slot).get g = m.cache.get g :=
    (get_discard_eq ..).trans (get_leave ..)
  have hstore : ((m.cache.leave c.slot i).discard c.fingerprint c.slot).store = m.cache.store :=
    store_discard ..
  have hqueue (s : Nat) : (((m.cache.leave c.slot i).discard c.fingerprint c.slot).queueIn s).Sublist
      (m.cache.queueIn s) := by
    rw [queueIn_discard]
    exact queueIn_leave_sublist ..
  refine hm.finish (hm.coherent.step (b := b) (.failed hi hs ho)) hi hturn hqueue (fun g _ => hget g)
    (fun g _ => by rw [hstore]) fun hn => ?_
  rw [Backing.Division.serve_of_failed (hn.document.trans hnone) (hn.asked hi rfl hstarted) ho,
    (hm.due hi).ran (Stage.holds_of_hasTurn hturn), hstarted, Backing.Division.account, hstore, hget, hnone]

theorem Balanced.saved (hm : Balanced D A m) {markup : String} (hi : m.callers[i]? = some c)
    (hs : c.stage = .saving markup) :
    Balanced D A ((m.withStore (b.save c.fingerprint markup m.cache.store)).complete i c markup) := by
  have hturn : c.stage.hasTurn = true := by rw [hs]; rfl
  have hholds := Stage.holds_of_hasTurn hturn
  have hstarted : c.stage.started = true := by rw [hs]; rfl
  have hget := get_complete hm.coherent hi hholds (b.save c.fingerprint markup m.cache.store)
    ⟨c.fingerprint, markup⟩
  have hpart (g : Fingerprint) := D.part_save c.fingerprint g markup m.cache.store
  refine hm.finish (hm.coherent.step (.saved hi hs)) hi hturn (fun s => queueIn_fill_leave_sublist ..)
    (fun g hg => (hget g).trans (if_neg hg)) (fun g hg => (hpart g).trans (if_neg hg)) fun hn => ?_
  rw [Backing.Division.serve_of_rendered (hn.document.trans (hm.coherent.get_of_hasTurn hi hturn))
    (hn.asked hi rfl hstarted) ((hm.due hi).saving hs), (hm.due hi).ran hholds, hstarted]
  exact congrArg (Prod.mk _) (congrArg₂ Account.mk ((hget c.fingerprint).trans (if_pos rfl)).symm
    ((hpart c.fingerprint).trans (if_pos rfl)).symm)

end Turns

/-- **Every step keeps the books balanced**, unless a caller is abandoned. -/
theorem Balanced.step (hm : Balanced D A m) (h : Step b m m') (hkept : m'.Attended) : Balanced D A m' := by
  cases h with
  | hit hl hd => exact hm.hit hl hd
  | join hl hd => exact hm.join hl hd
  | begin hl => exact hm.begin hl
  | serve hi hs hd => exact hm.serve hi hs hd
  | turn hi hs hslot hd hq => exact hm.turn hi hs hslot hd hq
  | missed hi hs hb => exact hm.missed hi hs hb
  | rendered hi hs ho => exact hm.rendered hi hs ho
  | found hi hs hb => exact hm.found hi hs hb
  | failed hi hs ho => exact hm.failed hi hs ho
  | saved hi hs => exact hm.saved hi hs
  | @abandoned i c hi hs =>
    exact absurd rfl (hkept i { c with stage := .abandoned } (setStage_eq_some.mpr (Or.inr ⟨rfl, c, hi, rfl⟩)))

end Machine
end Galley
