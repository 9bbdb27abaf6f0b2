import Galley.Proofs.Cache.Balance

/-! # A batch is as good as calls in turn

When all callers have ended, balanced books say how each was answered and what became of
every account (`Machine.Balanced.ended`), whichever steps led there.  Calls that are made one
after another (`Cache.inTurn`) are such runs too, one for each call, so a cache answers calls
that run side by side as it answers them in turn (`Cache.sideBySide_eq_inTurn`). -/
namespace Galley
open Cache

variable {σ ε V : Type}

namespace Machine

variable {b : Backing σ} {D : b.Division V} {A : Fingerprint → Account V} {m : Machine σ ε}

/-! ## Runs -/

/-- **Every run keeps the books balanced**, as long as nobody is abandoned. -/
theorem Balanced.after (hm : Balanced D A m) (hkept : m.Attended) {events : List (Event ε)}
    (hevents : ∀ i, .abandon i ∉ events) : Balanced D A (m.after b events) := by
  induction events generalizing m with
  | nil => exact hm
  | cons event events ih =>
    have hone : ∀ i, .abandon i ∉ [event] := fun i h => hevents i (List.mem_cons.mpr (Or.inl (List.mem_singleton.mp h)))
    have hnext : (m.happen b event).Attended := hkept.after b hone
    refine ih ?_ hnext fun i h => hevents i (List.mem_cons_of_mem _ h)
    obtain hsame | hstep := happen_cases (b := b) (m := m) event
    · rw [hsame]
      exact hm
    · exact hm.step hstep hnext

/-! ## Ends -/

/-- **When all callers have ended, the books say everything**: how each was answered, and
what became of every account. -/
theorem Balanced.ended (hm : Balanced D A m) (hkept : m.Attended) (hended : m.left = 0) :
    m.callers.toList.map Caller.answer = D.answersIn A m.calls ∧ D.account m.cache = D.books A m.calls := by
  constructor
  · refine List.ext_getElem? fun i => ?_
    rw [Backing.Division.getElem?_answersIn, getElem?_calls, List.getElem?_map, Array.getElem?_toList, Option.map_map]
    cases hi : m.callers[i]? with
    | none => rfl
    | some c =>
      obtain ⟨result, hs⟩ := done_of_left hkept hended hi
      exact congrArg some ((hm.due hi).done hs)
  · funext f
    obtain ⟨n, hn⟩ := hm.settled f
    have hall : D.books A m.calls = booked D A m m.callers.size := by
      rw [booked, List.take_of_length_le (Nat.le_of_eq m.length_calls)]
    -- the calls that are not settled are for other fingerprints, or find the document
    have hsettled : booked D A m m.callers.size f = booked D A m n f := by
      cases hget : m.cache.get f with
      | some d => exact hn.booked_of_document hget hn.le
      | none =>
        refine Backing.Division.books_take_of_others hn.le fun {k call} hnk _ hk hprint => ?_
        rw [getElem?_calls, Option.map_eq_some_iff] at hk
        obtain ⟨c, hc, rfl⟩ := hk
        exact not_holds_of_left hended hc (hn.holds hget hc hprint hnk)
    have hidle := hn.idle fun i c hi _ => by
      obtain ⟨result, hs⟩ := done_of_left hkept hended hi
      rw [hs]
      rfl
    rw [hall, hsettled]
    exact congrArg₂ Account.mk hn.document.symm hidle

/-- A run on a cache without callers, at the end of which all callers have ended. -/
theorem after_ended (D : b.Division V) {cache : Cache σ}
    (hcache : ({ cache, callers := #[] } : Machine σ ε).Coherent) {events : List (Event ε)}
    (hevents : ∀ i, .abandon i ∉ events)
    (hended : (({ cache, callers := #[] } : Machine σ ε).after b events).left = 0) :
    (({ cache, callers := #[] } : Machine σ ε).after b events).callers.toList.map Caller.answer =
        D.answersIn (D.account cache) (callsIn events) ∧
      D.account (({ cache, callers := #[] } : Machine σ ε).after b events).cache =
        D.books (D.account cache) (callsIn events) := by
  have hkept : ({ cache, callers := #[] } : Machine σ ε).Attended := fun i c h => by simp at h
  have hcalls := calls_after b ({ cache, callers := #[] } : Machine σ ε) events
  have h := ((Balanced.start D hcache).after hkept hevents).ended (hkept.after b hevents) hended
  rwa [hcalls] at h

end Machine

namespace Cache

/-! ## Calls in turn -/

/-- Calls that are made one after another, each when the one before it has ended. -/
def inTurn (b : Backing σ) (cache : Cache σ) : List (Cache.Call ε) → List (Answer ε) × Cache σ
  | [] => ([], cache)
  | call :: calls =>
    let first := batch b cache [call]
    let rest := inTurn b first.2 calls
    (first.1 ++ rest.1, rest.2)

variable {b : Backing σ} {cache : Cache σ} (D : b.Division V)

theorem batch_ended (hcache : ({ cache, callers := #[] } : Machine σ ε).Coherent) (calls : List (Cache.Call ε)) :
    (batch b cache calls).1 = D.answersIn (D.account cache) calls ∧
      D.account (batch b cache calls).2 = D.books (D.account cache) calls ∧
      ({ cache := (batch b cache calls).2, callers := #[] } : Machine σ ε).Coherent := by
  obtain ⟨events, rfl, hevents, hended, hbatch⟩ := exists_batch_eq_after b hcache calls
  obtain ⟨hanswers, haccounts⟩ := Machine.after_ended D hcache hevents hended
  rw [hbatch]
  refine ⟨hanswers, haccounts, coherent_of_left ?_ hended⟩
  exact Machine.after_induction (fun hm h => hm.step h) hcache events

/-- Calls in turn are answered by the books. -/
theorem inTurn_ended (hcache : ({ cache, callers := #[] } : Machine σ ε).Coherent) (calls : List (Cache.Call ε)) :
    (inTurn b cache calls).1 = D.answersIn (D.account cache) calls ∧
      D.account (inTurn b cache calls).2 = D.books (D.account cache) calls := by
  induction calls generalizing cache with
  | nil => exact ⟨rfl, rfl⟩
  | cons call calls ih =>
    obtain ⟨hanswer, haccounts, hnext⟩ := batch_ended D hcache [call]
    obtain ⟨hanswers, hlater⟩ := ih hnext
    rw [haccounts] at hanswers hlater
    rw [inTurn, hanswer, hanswers, hlater, Backing.Division.answersIn_cons call calls]
    exact ⟨rfl, rfl⟩

/-- Calls came out alike: with the same answers, the same complete documents, and the same of
every fingerprint in the backing. -/
structure Alike (D : b.Division V) (r r' : List (Answer ε) × Cache σ) : Prop where
  answers : r.1 = r'.1
  get : ∀ f, r.2.get f = r'.2.get f
  part : ∀ f, D.part f r.2.store = D.part f r'.2.store

variable {D} in
theorem Alike.of_accounts {r r' : List (Answer ε) × Cache σ} (h : r.1 = r'.1)
    (haccounts : D.account r.2 = D.account r'.2) : Alike D r r' where
  answers := h
  get f := congrArg Account.document (congrFun haccounts f)
  part f := congrArg Account.part (congrFun haccounts f)

/-- **A batch is as good as calls in turn.**  Take a cache after any past that has left nobody
in it, over a backing that falls apart by fingerprints, and any calls.  Whether they run side by
side as a batch, or enter in order and then advance in whatever order until all have ended,
each call has the same answer and runs its render function just when it does if the calls are
made one after another, and the cache and its backing end up alike. -/
theorem sideBySide_eq_inTurn (store : σ) {past : List (Machine.Event ε)}
    (hpast : ((Machine.start store).after b past).left = 0) (calls : List (Cache.Call ε)) :
    let cache := ((Machine.start store : Machine σ ε).after b past).cache
    Alike D (batch b cache calls) (inTurn b cache calls) ∧
      ∀ events : List (Machine.Event ε), Machine.callsIn events = calls → (∀ i, .abandon i ∉ events) →
        let m := ({ cache, callers := #[] } : Machine σ ε).after b events
        m.left = 0 → Alike D (m.callers.toList.map Caller.answer, m.cache) (inTurn b cache calls) := by
  intro cache
  have hcache : ({ cache, callers := #[] } : Machine σ ε).Coherent :=
    coherent_of_left (Machine.coherent_after b store past) hpast
  obtain ⟨hanswers, haccounts⟩ := inTurn_ended D hcache calls
  constructor
  · obtain ⟨hbatch, hafter, -⟩ := batch_ended D hcache calls
    exact .of_accounts (hbatch.trans hanswers.symm) (hafter.trans haccounts.symm)
  · rintro events rfl hevents m hended
    obtain ⟨hside, hafter⟩ := Machine.after_ended D hcache hevents hended
    exact .of_accounts (hside.trans hanswers.symm) (hafter.trans haccounts.symm)

/-- Calls for two fingerprints, of which some fail. -/
def mixedCalls : List (Call Unit) :=
  [(⟨"f"⟩, .pure (.error ())), (⟨"g"⟩, .pure (.ok "c")), (⟨"f"⟩, .pure (.ok "a")), (⟨"f"⟩, .pure (.ok "b")),
    (⟨"g"⟩, .pure (.error ()))]

/-- A past that leaves an empty slot behind, since its caller is abandoned. -/
def abandonedPast : List (Machine.Event Unit) := [.enter ⟨"f"⟩ (.pure (.ok "z")), .advance 0, .abandon 0]

/-- A shelf that gives back nothing, and on which one of two fingerprints cannot be saved. -/
def halfFaulty : Backing Backing.Shelf := .faulty (fun _ => true) fun f => f == ⟨"g"⟩

def leftBehind : Cache Backing.Shelf :=
  ((Machine.start ((∅ : Backing.Shelf).insert ⟨"f"⟩ "old") : Machine Backing.Shelf Unit).after halfFaulty
    abandonedPast).cache

theorem sideBySide_eq_inTurn_mixed :
    (batch halfFaulty leftBehind mixedCalls).1 =
        [⟨some (.error ()), true⟩, ⟨some (.ok ⟨⟨"g"⟩, "c"⟩), true⟩, ⟨some (.ok ⟨⟨"f"⟩, "a"⟩), true⟩,
          ⟨some (.ok ⟨⟨"f"⟩, "a"⟩), false⟩, ⟨some (.ok ⟨⟨"g"⟩, "c"⟩), false⟩] ∧
      (batch halfFaulty leftBehind mixedCalls).2.store[(⟨"f"⟩ : Fingerprint)]? = some "a" := by
  let D : halfFaulty.Division (Option String) := .faulty _ _
  have hpast : ((Machine.start ((∅ : Backing.Shelf).insert ⟨"f"⟩ "old") : Machine Backing.Shelf Unit).after
    halfFaulty abandonedPast).left = 0 := rfl
  obtain ⟨⟨hanswers, -, hpart⟩, -⟩ := sideBySide_eq_inTurn D _ hpast mixedCalls
  obtain ⟨hturns, haccounts⟩ := inTurn_ended D (coherent_of_left (Machine.coherent_after _ _ _) hpast) mixedCalls
  have hbooks : (D.books (D.account leftBehind) mixedCalls ⟨"f"⟩).part = some "a" := rfl
  have hstored : (D.account (inTurn halfFaulty leftBehind mixedCalls).2 ⟨"f"⟩).part = some "a" :=
    (congrArg Account.part (congrFun haccounts ⟨"f"⟩)).trans hbooks
  have hcalled : D.answersIn (D.account leftBehind) mixedCalls =
      [⟨some (.error ()), true⟩, ⟨some (.ok ⟨⟨"g"⟩, "c"⟩), true⟩, ⟨some (.ok ⟨⟨"f"⟩, "a"⟩), true⟩,
        ⟨some (.ok ⟨⟨"f"⟩, "a"⟩), false⟩, ⟨some (.ok ⟨⟨"g"⟩, "c"⟩), false⟩] := rfl
  exact ⟨hanswers.trans (hturns.trans hcalled), (hpart ⟨"f"⟩).trans hstored⟩

end Cache
end Galley
