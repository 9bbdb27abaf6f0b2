import Galley.Proofs.Cache.InTurn

/-! # Restarts over a store that works

Over a store whose loads and saves never fail (`Backing.Reliable`) a call by itself is answered
from what the store has of its fingerprint (`Cache.answerFrom`), whether or not the cache holds the
document as well: whatever it holds, the store has too (`Reliable.Backed`).  A batch keeps that,
however its callers take turns, and so does a new cache on the same store, which holds nothing.
So a history of batches and restarts (`Cache.Lived`) is told by the content of the store and the
calls alone (`Lived.told`), and the restarts in it do not show (`Cache.restarts_invisible`). -/
namespace Galley
open Cache

variable {σ ε : Type}

namespace Backing

/-- A store whose loads and saves never fail: it has at most one markup of each fingerprint, a
load gives that one back, and a save replaces it. -/
structure Reliable (b : Backing σ) where
  content : σ → Fingerprint → Option String
  load_result : ∀ f s, (b.load f s).1 = content s f
  content_load : ∀ f s, content (b.load f s).2 = content s
  content_save : ∀ f g markup s, content (b.save f markup s) g = if g = f then some markup else content s g

namespace Reliable

variable {b : Backing σ} (R : b.Reliable)

/-- Such a store falls apart by fingerprints. -/
def division : b.Division (Option String) where
  part f s := R.content s f
  load _ v := (v, v)
  save _ markup _ := some markup
  load_result := R.load_result
  part_load f g s := by
    rw [R.content_load]
    split
    next h => rw [h]
    next => rfl
  part_save f g markup s := R.content_save f g markup s

/-- A shelf that does not fail. -/
def shelf : (Backing.shelf false false).Reliable where
  content s f := s[f]?
  load_result _ _ := rfl
  content_load _ _ := rfl
  content_save f g markup s := by
    show (s.insert f markup)[g]? = _
    rw [Std.HashMap.getElem?_insert]
    by_cases h : g = f
    · rw [if_pos (beq_iff_eq.mpr h.symm), if_pos h]
    · rw [if_neg fun heq => h (beq_iff_eq.mp heq).symm, if_neg h]

end Reliable
end Backing

namespace Cache

/-! ## Calls on the content of a store -/

/-- What becomes of a call by itself, and of what the store has of its fingerprint, when there
is no cache. -/
def answerFrom (kept : Option String) (call : Call ε) : Answer ε × Option String :=
  match kept with
  | some markup => ({ result := some (.ok ⟨call.1, markup⟩), ran := false }, kept)
  | none =>
    match call.2.get with
    | .ok markup => ({ result := some (.ok ⟨call.1, markup⟩), ran := true }, some markup)
    | .error e => ({ result := some (.error e), ran := true }, none)

/-- Calls in turn on the content of a store, and the content after them. -/
def answersFrom (content : Fingerprint → Option String) :
    List (Call ε) → List (Answer ε) × (Fingerprint → Option String)
  | [] => ([], content)
  | call :: calls =>
    let first := answerFrom (content call.1) call
    let rest := answersFrom (fun f => if f = call.1 then first.2 else content f) calls
    (first.1 :: rest.1, rest.2)

end Cache

namespace Backing.Reliable

variable {b : Backing σ} {R : b.Reliable}

/-- What the cache holds of a fingerprint, the store has too. -/
def Backed (f : Fingerprint) (a : Account (Option String)) : Prop :=
  ∀ d, a.document = some d → d.fingerprint = f ∧ a.part = some d.markup

theorem Backed.of_part (f : Fingerprint) (part : Option String) : Backed f ⟨.none, part⟩ := by
  intro d h
  cases h

/-- **A call is answered as if there were no cache**, and leaves its account backed. -/
theorem Backed.serve {call : Cache.Call ε} {a : Account (Option String)} (ha : Backed call.1 a) :
    (R.division.serve a call).1 = (answerFrom a.part call).1 ∧
      (R.division.serve a call).2.part = (answerFrom a.part call).2 ∧
      Backed call.1 (R.division.serve a call).2 := by
  obtain ⟨document, part⟩ := a
  cases document with
  | some d =>
    obtain ⟨print, markup⟩ := d
    obtain ⟨rfl, rfl⟩ : print = call.1 ∧ part = some markup := ha _ rfl
    rw [Division.serve_of_document rfl]
    exact ⟨rfl, rfl, ha⟩
  | none =>
    cases part with
    | some markup =>
      rw [Division.serve_of_found rfl rfl]
      refine ⟨rfl, rfl, ?_⟩
      rintro d ⟨⟩
      exact ⟨rfl, rfl⟩
    | none =>
      cases hout : call.2.get with
      | ok markup =>
        rw [Division.serve_of_rendered rfl rfl hout, answerFrom, hout]
        refine ⟨rfl, rfl, ?_⟩
        rintro d ⟨⟩
        exact ⟨rfl, rfl⟩
      | error e =>
        rw [Division.serve_of_failed rfl rfl hout, answerFrom, hout]
        exact ⟨rfl, rfl, .of_part call.1 .none⟩

/-- Calls in turn are answered as if there were no cache. -/
theorem answersFrom_eq {A : Fingerprint → Account (Option String)} (hA : ∀ f, Backed f (A f))
    (calls : List (Cache.Call ε)) :
    R.division.answersIn A calls = (answersFrom (fun f => (A f).part) calls).1 ∧
      (fun f => (R.division.books A calls f).part) = (answersFrom (fun f => (A f).part) calls).2 ∧
      ∀ f, Backed f (R.division.books A calls f) := by
  induction calls generalizing A with
  | nil => exact ⟨rfl, rfl, hA⟩
  | cons call calls ih =>
    obtain ⟨hanswer, hpart, hbacked⟩ := (hA call.1).serve (R := R)
    have hparts : (fun f => (R.division.post A call f).part) =
        fun f => if f = call.1 then (answerFrom (A call.1).part call).2 else (A f).part := by
      funext f
      rw [← hpart, Division.post]
      split
      next h => rw [h]
      next => rfl
    obtain ⟨hanswers, hafter, hlater⟩ := ih (A := R.division.post A call) fun f => by
      rw [Division.post]
      split
      next h =>
        subst h
        exact hbacked
      next => exact hA f
    rw [hparts] at hanswers hafter
    refine ⟨?_, hafter, hlater⟩
    rw [Division.answersIn_cons, hanswer, hanswers, answersFrom]

end Backing.Reliable

namespace Cache

variable {b : Backing σ}

/-! ## Histories -/

/-- What happens to the caches on a store. -/
inductive Episode (ε : Type) where
  /-- Calls that are made side by side. -/
  | batch (calls : List (Call ε))
  /-- The cache is replaced by a new one on the same store. -/
  | restart

def Episode.isBatch : Episode ε → Bool
  | .batch _ => true
  | .restart => false

/-- A history of a store, from one cache to another, with the answers of each batch.  The callers
of a batch enter in order and then advance in whatever order until all have ended. -/
inductive Lived (b : Backing σ) : Cache σ → List (Episode ε) → List (List (Answer ε)) → Cache σ → Prop where
  | nil (cache : Cache σ) : Lived b cache [] [] cache
  | batch {cache cache' : Cache σ} {events : List (Machine.Event ε)} {episodes : List (Episode ε)}
      {answers : List (List (Answer ε))} (hevents : ∀ i, .abandon i ∉ events)
      (hended : (({ cache, callers := #[] } : Machine σ ε).after b events).left = 0)
      (rest : Lived b (({ cache, callers := #[] } : Machine σ ε).after b events).cache episodes answers cache') :
      Lived b cache (.batch (Machine.callsIn events) :: episodes)
        ((({ cache, callers := #[] } : Machine σ ε).after b events).callers.toList.map Caller.answer :: answers) cache'
  | restart {cache cache' : Cache σ} {episodes : List (Episode ε)} {answers : List (List (Answer ε))}
      (rest : Lived b (.start cache.store) episodes answers cache') :
      Lived b cache (.restart :: episodes) answers cache'

/-- The answers of a history as the content of the store tells them, and the content after it. -/
def told (content : Fingerprint → Option String) :
    List (Episode ε) → List (List (Answer ε)) × (Fingerprint → Option String)
  | [] => ([], content)
  | .batch calls :: episodes =>
    let first := answersFrom content calls
    let rest := told first.2 episodes
    (first.1 :: rest.1, rest.2)
  | .restart :: episodes => told content episodes

theorem told_filter (content : Fingerprint → Option String) (episodes : List (Episode ε)) :
    told content (episodes.filter Episode.isBatch) = told content episodes := by
  induction episodes generalizing content with
  | nil => rfl
  | cons episode episodes ih =>
    cases episode with
    | batch calls =>
      rw [List.filter_cons_of_pos rfl, told, told, ih]
    | restart =>
      rw [List.filter_cons_of_neg (by simp [Episode.isBatch]), told, ih]

/-- A history can always be lived to its end. -/
theorem exists_lived {cache : Cache σ} (hcache : ({ cache, callers := #[] } : Machine σ ε).Coherent)
    (episodes : List (Episode ε)) : ∃ answers cache', Lived b cache episodes answers cache' := by
  induction episodes generalizing cache with
  | nil => exact ⟨_, _, .nil cache⟩
  | cons episode episodes ih =>
    cases episode with
    | batch calls =>
      obtain ⟨events, rfl, hevents, hended, -⟩ := exists_batch_eq_after b hcache calls
      have hafter := Machine.after_induction (b := b) (fun hm h => hm.step h) hcache events
      obtain ⟨answers, cache', hrest⟩ := ih (coherent_of_left hafter hended)
      exact ⟨_, _, .batch hevents hended hrest⟩
    | restart =>
      obtain ⟨answers, cache', hrest⟩ := ih (.start cache.store)
      exact ⟨_, _, .restart hrest⟩

/-- **The content of the store tells every history.** -/
theorem Lived.told (R : b.Reliable) {cache cache' : Cache σ} {episodes : List (Episode ε)}
    {answers : List (List (Answer ε))} (h : Lived b cache episodes answers cache')
    (hcache : ({ cache, callers := #[] } : Machine σ ε).Coherent)
    (hbacked : ∀ f, Backing.Reliable.Backed f (R.division.account cache f)) :
    answers = (Cache.told (R.content cache.store) episodes).1 ∧
      R.content cache'.store = (Cache.told (R.content cache.store) episodes).2 := by
  induction h with
  | nil cache => exact ⟨rfl, rfl⟩
  | @batch cache cache' events episodes answers hevents hended rest ih =>
    obtain ⟨hanswers, haccounts⟩ := Machine.after_ended R.division hcache hevents hended
    obtain ⟨hfrom, hparts, hlater⟩ :=
      Backing.Reliable.answersFrom_eq (R := R) hbacked (Machine.callsIn events)
    rw [← haccounts] at hparts hlater
    have hafter := Machine.after_induction (b := b) (fun hm h => hm.step h) hcache events
    obtain ⟨hrest, hcontent⟩ := ih (coherent_of_left hafter hended) hlater
    have hstore : R.content (({ cache, callers := #[] } : Machine σ ε).after b events).cache.store =
        (answersFrom (R.content cache.store) (Machine.callsIn events)).2 := hparts
    rw [hstore] at hrest hcontent
    refine ⟨?_, hcontent⟩
    rw [hanswers, hfrom, hrest]
    rfl
  | restart rest ih => exact ih (.start _) fun f => .of_part f _

/-- **Restarts are invisible when persistence works.**  Take a store whose loads and saves never
fail, with any content, and any history on it of batches, whose callers may take turns in any
order, and of new caches in place of the old ones.  It can be lived to its end, and so can the
history without the restarts; and however the two are lived, every call gets the same result and
runs its render function in the same cases, and the store ends up with the same content. -/
theorem restarts_invisible (R : b.Reliable) (store : σ) (episodes : List (Episode ε)) :
    let batches := episodes.filter Episode.isBatch
    (∃ answers cache, Lived b (.start store) episodes answers cache) ∧
      (∃ answers cache, Lived b (.start store) batches answers cache) ∧
      ∀ {answers answers' : List (List (Answer ε))} {cache cache' : Cache σ},
        Lived b (.start store) episodes answers cache → Lived b (.start store) batches answers' cache' →
        answers = answers' ∧ ∀ f, R.content cache.store f = R.content cache'.store f := by
  intro batches
  refine ⟨exists_lived (.start store) episodes, exists_lived (.start store) batches, ?_⟩
  intro answers answers' cache cache' h h'
  have hbacked (f : Fingerprint) : Backing.Reliable.Backed f (R.division.account (.start store) f) :=
    .of_part f _
  obtain ⟨hanswers, hcontent⟩ := h.told R (.start store) hbacked
  obtain ⟨hanswers', hcontent'⟩ := h'.told R (.start store) hbacked
  have htold := told_filter (R.content store) episodes
  refine ⟨?_, fun f => ?_⟩
  · exact hanswers.trans ((congrArg Prod.fst htold).symm.trans hanswers'.symm)
  · exact congrFun (hcontent.trans ((congrArg Prod.snd htold).symm.trans hcontent'.symm)) f

/-- A shelf on which one of two fingerprints lies already. -/
def halfFilled : Backing.Shelf := (∅ : Backing.Shelf).insert ⟨"f"⟩ "old"

/-- Two restarts: the first after a failure, the second after the same call has gone well. -/
def restartedTwice : List (Episode Unit) :=
  [.batch [(⟨"g"⟩, .pure (.error ())), (⟨"f"⟩, .pure (.ok "new"))], .restart,
    .batch [(⟨"g"⟩, .pure (.ok "c")), (⟨"g"⟩, .pure (.ok "d"))], .restart,
    .batch [(⟨"g"⟩, .pure (.error ()))]]

theorem restarts_invisible_shelf :
    ∃ answers cache cache',
      Lived (.shelf false false) (.start halfFilled) restartedTwice answers cache ∧
      Lived (.shelf false false) (.start halfFilled) (restartedTwice.filter Episode.isBatch) answers cache' ∧
      answers = [[⟨some (.error ()), true⟩, ⟨some (.ok ⟨⟨"f"⟩, "old"⟩), false⟩],
        [⟨some (.ok ⟨⟨"g"⟩, "c"⟩), true⟩, ⟨some (.ok ⟨⟨"g"⟩, "c"⟩), false⟩],
        [⟨some (.ok ⟨⟨"g"⟩, "c"⟩), false⟩]] ∧
      ∀ f : Fingerprint, cache.store[f]? = cache'.store[f]? := by
  obtain ⟨⟨answers, cache, h⟩, ⟨answers', cache', h'⟩, hsame⟩ :=
    restarts_invisible .shelf halfFilled restartedTwice
  obtain ⟨rfl, hstored⟩ := hsame h h'
  refine ⟨answers, cache, cache', h, h', ?_, hstored⟩
  obtain ⟨hanswers, -⟩ := h.told .shelf (.start halfFilled) fun f => .of_part f _
  have hf : halfFilled[(⟨"f"⟩ : Fingerprint)]? = some "old" := Std.HashMap.getElem?_insert_self
  have hg : halfFilled[(⟨"g"⟩ : Fingerprint)]? = none := by
    rw [halfFilled, Std.HashMap.getElem?_insert, if_neg (by decide)]
    exact Std.HashMap.getElem?_empty
  rw [hanswers]
  simp [restartedTwice, Cache.told, answersFrom, answerFrom, Backing.Reliable.shelf, Cache.start, hf, hg, Thunk.pure,
    Thunk.get]

end Cache
end Galley
