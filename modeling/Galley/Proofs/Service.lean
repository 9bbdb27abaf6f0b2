import Galley.Proofs.Cache.Batch
import Galley.Proofs.Cache.Honesty
import Galley.Proofs.Request.Key
import Galley.Proofs.Typesetter.Page
import Galley.Service

/-! # The cache of a service does not show

What a service answers is what its typesetter gives for the request alone.  The relation
that carries this through the cache is `Service.IsOutcome`: the markup, or the error, is
that of a request with the fingerprint.  Requests with one fingerprint have one rendering
(`IsOutcome.eq_render`), whatever the clock shows, and so the outcome that the cache hands
out is the right one for whoever asks. -/
namespace Galley

variable {σ β : Type}

namespace Service

/-! ## Histories -/

/-- A service at another time. -/
def withClock (s : Service σ β) (clock : Clock) : Service σ β :=
  { s with typesetter := s.typesetter.withClock clock }

/-- The answers to batches of requests, each batch at its time, one batch after another. -/
def serve (s : Service σ β) : List (Clock × List Request) → List (List Answer)
  | [] => []
  | (clock, rs) :: more => ((s.withClock clock).renderAll rs).1 :: ((s.withClock clock).renderAll rs).2.serve more

/-- What can happen to a service. -/
inductive Event where
  /-- A request comes at a time. -/
  | call (clock : Clock) (r : Request)
  /-- A call goes on to where it waits next. -/
  | advance (i : Nat)
  /-- A call is given up. -/
  | abandon (i : Nat)

/-- An event, as the cache sees it. -/
def Event.toMachine (s : Service σ β) : Event → Machine.Event TypesetError
  | .call clock r => .enter r.fingerprint ⟨fun _ => ((s.withClock clock).typesetter.render s.renderer r).result⟩
  | .advance i => .advance i
  | .abandon i => .abandon i

/-- The cache of a service and its callers after events. -/
def after (s : Service σ β) (events : List Event) : Machine β TypesetError :=
  ({ cache := s.cache, callers := #[] } : Machine β TypesetError).after s.backing (events.map (·.toMachine s))

/-- The requests that come, in order. -/
def requestsIn (events : List Event) : List Request :=
  events.filterMap fun
    | .call _ r => some r
    | _ => none

/-- What the typesetter gives for a request, past the cache. -/
def uncached (s : Service σ β) (r : Request) : Except TypesetError Rendered :=
  (s.typesetter.render s.renderer r).result.map (Rendered.mk r.fingerprint)

/-! ## Outcomes -/

/-- The rendering of one of these requests that has the fingerprint. -/
def IsOutcome (t : Typesetter σ) (renderer : Renderer) (requests : List Request) (f : Fingerprint)
    (outcome : Except TypesetError String) : Prop :=
  ∃ r ∈ requests, r.fingerprint = f ∧ (t.render renderer r).result = outcome

/-- Fingerprints tell these requests apart: their sizes fit the packing, and their key
bytes do not collide under the hash. -/
structure Separated (requests : List Request) : Prop where
  fits : ∀ r ∈ requests, r.options.toPack.Fits
  free : ∀ r ∈ requests, ∀ r' ∈ requests,
    Blake3.hash r.keyBytes = Blake3.hash r'.keyBytes → r.keyBytes = r'.keyBytes

variable {t : Typesetter σ} {renderer : Renderer} {requests : List Request}

/-- An outcome for the fingerprint of a request is its rendering. -/
theorem IsOutcome.eq_render (hrequests : Separated requests) {r : Request} (hr : r ∈ requests)
    {outcome : Except TypesetError String} (h : IsOutcome t renderer requests r.fingerprint outcome) :
    outcome = (t.render renderer r).result := by
  obtain ⟨r', hr', hprint, rfl⟩ := h
  obtain ⟨hbody, hoptions⟩ := Request.body_options_of_fingerprint (hrequests.fits r' hr')
    (hrequests.fits r hr) (hrequests.free r' hr' r hr) hprint
  rw [t.render_congr renderer hbody hoptions]

/-! ## One batch -/

theorem calls_renderAll (rs : List Request) (attempt : Request → Thunk Typesetter.Attempt) :
    rs.zipWith (fun r (a : Thunk Typesetter.Attempt) => (r.fingerprint, a.map (·.result))) (rs.map attempt) =
      rs.map fun r => (r.fingerprint, (attempt r).map (·.result)) := by
  induction rs with
  | nil => rfl
  | cons r rs ih => rw [List.map_cons, List.zipWith_cons_cons, ih, List.map_cons]

theorem results_renderAll {rs : List Request} {attempt : Request → Thunk Typesetter.Attempt}
    {answers : List (Cache.Answer TypesetError)} {result : Request → Option (Except TypesetError Rendered)}
    (h : List.Forall₂ (fun r answer => answer.result = result r) rs answers) :
    (answers.zipWith (fun (answer : Cache.Answer TypesetError) attempt =>
      ({ result := answer.result, attempt := if answer.ran then some attempt.get else none } : Answer))
        (rs.map attempt)).map Answer.result = rs.map result := by
  induction h with
  | nil => rfl
  | cons hfirst hrest ih => rw [List.map_cons, List.zipWith_cons_cons, List.map_cons, ih, hfirst, List.map_cons]

variable {s : Service σ β} {kept : β}

/-- **A batch is answered as if there were no cache**, and leaves the cache so. -/
theorem renderAll_results (hb : s.backing.Honest kept) (hrequests : Separated requests)
    (hs : s.cache.Sourced s.backing kept (IsOutcome t s.renderer requests))
    (hsame : ∀ r, s.typesetter.render s.renderer r = t.render s.renderer r)
    {rs : List Request} (hrs : ∀ r ∈ rs, r ∈ requests) :
    (s.renderAll rs).1.map Answer.result =
        rs.map (fun r => some ((t.render s.renderer r).result.map (Rendered.mk r.fingerprint))) ∧
      (s.renderAll rs).2.cache.Sourced s.backing kept (IsOutcome t s.renderer requests) := by
  let attempt (r : Request) : Thunk Typesetter.Attempt := .mk fun _ => s.typesetter.render s.renderer r
  let calls := rs.map fun r => (r.fingerprint, (attempt r).map (·.result))
  have hcalls : ∀ call ∈ calls, IsOutcome t s.renderer requests call.1 call.2.get := by
    intro call hcall
    obtain ⟨r, hr, rfl⟩ := List.mem_map.mp hcall
    exact ⟨r, hrs r hr, rfl, congrArg Typesetter.Attempt.result (hsame r).symm⟩
  obtain ⟨hanswers, hcache⟩ := Cache.batch_answers hb hs hcalls
  rw [renderAll, calls_renderAll]
  refine ⟨results_renderAll ?_, hcache⟩
  rw [List.forall₂_map_left_iff] at hanswers
  refine ((List.forall₂_and_left rs _).mpr ⟨hrs, hanswers⟩).imp ?_
  rintro r answer ⟨hr, outcome, houtcome, hanswer⟩
  rw [hanswer, houtcome.eq_render hrequests hr]

/-! ## Whole histories -/

theorem serve_results (ht : t.engine.Clockless) (hrequests : Separated requests)
    {history : List (Clock × List Request)} (hhistory : ∀ batch ∈ history, ∀ r ∈ batch.2, r ∈ requests)
    (hb : s.backing.Honest kept) (hs : s.cache.Sourced s.backing kept (IsOutcome t s.renderer requests))
    (hsame : ∃ clock, s.typesetter = t.withClock clock) :
    (s.serve history).map (List.map Answer.result) = history.map fun batch =>
      batch.2.map fun r => some ((t.render s.renderer r).result.map (Rendered.mk r.fingerprint)) := by
  induction history generalizing s with
  | nil => rfl
  | cons batch history ih =>
    obtain ⟨clock, rs⟩ := batch
    obtain ⟨clock', hsame⟩ := hsame
    have hnow : (s.withClock clock).typesetter = t.withClock clock := by
      rw [withClock, hsame]
      rfl
    obtain ⟨hresults, hcache⟩ := renderAll_results (s := s.withClock clock) hb hrequests hs
      (fun r => by rw [hnow, Typesetter.render_withClock ht]) (hhistory _ (List.mem_cons_self ..))
    rw [serve, List.map_cons, List.map_cons, hresults,
      ih (s := ((s.withClock clock).renderAll rs).2)
        (fun batch hbatch => hhistory batch (List.mem_cons_of_mem _ hbatch)) hb hcache ⟨clock, hnow⟩]
    rfl

theorem callsIn_toMachine (s : Service σ β) (events : List Event) :
    (Machine.callsIn (events.map (·.toMachine s))).map Prod.fst =
      (requestsIn events).map Request.fingerprint := by
  induction events with
  | nil => rfl
  | cons event events ih =>
    cases event with
    | call clock r => exact congrArg (r.fingerprint :: ·) ih
    | advance i => exact ih
    | abandon i => exact ih

/-- A call that has returned, at any moment of any run, has returned what there is without
a cache. -/
theorem done_result (ht : s.typesetter.engine.Clockless) (hrequests : Separated requests) {events : List Event}
    (hevents : ∀ clock r, .call clock r ∈ events → r ∈ requests) (hb : s.backing.Honest kept)
    (hs : s.cache.Sourced s.backing kept (IsOutcome s.typesetter s.renderer requests))
    {i : Nat} {r : Request} (hi : (requestsIn events)[i]? = some r) :
    ∃ c : Cache.Caller TypesetError, (s.after events).callers[i]? = some c ∧
      ∀ result, c.stage = .done result → result = s.uncached r := by
  have hcalls : (s.after events).calls = Machine.callsIn (events.map (·.toMachine s)) :=
    Machine.calls_after s.backing _ _
  have hprints := callsIn_toMachine s events
  have hlt : i < (s.after events).callers.size := by
    have hlengths := congrArg List.length hprints
    rw [List.length_map, List.length_map] at hlengths
    rw [← Machine.length_calls, hcalls, hlengths]
    exact (List.getElem?_eq_some_iff.mp hi).1
  refine ⟨_, Array.getElem?_eq_getElem hlt, ?_⟩
  intro result hdone
  have hc : (s.after events).callers[i]? = some (s.after events).callers[i] := Array.getElem?_eq_getElem hlt
  have hprint : (s.after events).callers[i].fingerprint = r.fingerprint := by
    have hcall := congrArg (Option.map Prod.fst) ((s.after events).getElem?_calls i)
    rw [hcalls, ← List.getElem?_map, hprints, List.getElem?_map, hi, hc] at hcall
    exact (Option.some.inj hcall).symm
  have hr : r ∈ requests := by
    obtain ⟨event, hevent, heq⟩ := List.mem_filterMap.mp (List.mem_of_getElem? hi)
    cases event with
    | call clock r' =>
      obtain rfl := Option.some.inj heq
      exact hevents clock _ hevent
    | advance i => cases heq
    | abandon i => cases heq
  have hsourced : (s.after events).Sourced s.backing kept (IsOutcome s.typesetter s.renderer requests) := by
    refine hs.sourced.after hb hs.coherent ?_
    intro f outcome h
    obtain ⟨event, hevent, heq⟩ := List.mem_map.mp h
    cases event with
    | call clock r' =>
      cases heq
      refine ⟨r', hevents clock r' hevent, rfl, ?_⟩
      exact congrArg Typesetter.Attempt.result (Typesetter.render_withClock ht clock s.renderer r').symm
    | advance i => cases heq
    | abandon i => cases heq
  have hstage := hsourced.stage hc
  rw [hdone, hprint] at hstage
  obtain ⟨outcome, houtcome, rfl⟩ := hstage
  rw [houtcome.eq_render hrequests hr]
  rfl

/-- **The cache is invisible.**  Take a service with an empty cache over a backing that is
empty and from then on gives back only what it was handed, and with an engine that does
not ask for the time.  Take requests that fingerprints tell apart.  Then every request of
every history of batches, each at its own time, is answered by what the typesetter gives
for it alone, markup or error; and however calls overlap, advance and are given up, a call
that has returned has returned that. -/
theorem answers_eq_uncached (s : Service σ β) (hcache : s.cache = .start kept) (hb : s.backing.Honest kept)
    (hengine : s.typesetter.engine.Clockless) (hrequests : Separated requests) :
    (∀ history : List (Clock × List Request), (∀ batch ∈ history, ∀ r ∈ batch.2, r ∈ requests) →
      (s.serve history).map (List.map Answer.result) =
        history.map fun batch => batch.2.map fun r => some (s.uncached r)) ∧
    ∀ events : List Event, (∀ clock r, .call clock r ∈ events → r ∈ requests) →
      ∀ (i : Nat) (r : Request), (requestsIn events)[i]? = some r →
        ∃ c : Cache.Caller TypesetError, (s.after events).callers[i]? = some c ∧
          ∀ result, c.stage = .done result → result = s.uncached r := by
  have hs : s.cache.Sourced s.backing kept (IsOutcome s.typesetter s.renderer requests) := by
    rw [hcache]
    exact .start s.backing kept _
  refine ⟨?_, ?_⟩
  · intro history hhistory
    exact serve_results hengine hrequests hhistory hb hs ⟨s.typesetter.clock, rfl⟩
  · intro events hevents i r hi
    exact done_result hengine hrequests hevents hb hs hi

/-- A service whose engine writes a page, over a backing whose second access fails. -/
def letters : Service Program.State (Nat × Backing.Shelf) where
  typesetter := Typesetter.lettering
  renderer := fun _ => .ok "<svg/>"
  backing := (Backing.shelf false false).failing (· == 1)
  cache := .start (0, ∅)

/-- Past the cache there is markup for every request that names no bundles. -/
theorem uncached_letters {r : Request} (hbundles : r.options.bundles = []) :
    ∃ text, letters.uncached r = .ok ⟨r.fingerprint, text⟩ := by
  obtain ⟨p, hp, -⟩ := Typesetter.typeset_lettering hbundles
  have hrender :
      (letters.typesetter.render letters.renderer r).result = Typesetter.markup letters.renderer r p.page := by
    rw [Typesetter.render]
    rcases htypeset : letters.typesetter.typeset r with ⟨e | p', traffic⟩
    · cases (congrArg Prod.fst htypeset).symm.trans hp
    · cases (congrArg Prod.fst htypeset).symm.trans hp
      rfl
  rw [uncached, hrender]
  exact ⟨_, rfl⟩

/-- A picture, the same with other line ends and blanks, and another one. -/
def pictures : List Request := [⟨"a\nb", .plain⟩, ⟨" a\r\nb ", .plain⟩, ⟨"c", .plain⟩]

theorem separated_pictures : Separated pictures where
  fits := by decide
  free := by
    let key := (⟨"a\nb", .plain⟩ : Request).keyBytes
    let other := (⟨"c", .plain⟩ : Request).keyBytes
    have hkeys : ∀ r ∈ pictures, r.keyBytes = key ∨ r.keyBytes = other := by decide
    have hne : Blake3.hash key ≠ Blake3.hash other := by decide +kernel
    intro r hr r' hr'
    obtain hr | hr := hkeys r hr <;> obtain hr' | hr' := hkeys r' hr' <;> rw [hr, hr'] <;> intro h
    · rfl
    · exact absurd h hne
    · exact absurd h.symm hne
    · rfl

/-- Two batches, the second with a picture of the first, and two calls that overlap; there is markup
for all of them. -/
theorem answers_eq_uncached_pictures :
    let history : List (Clock × List Request) :=
      [(.fixed, [⟨"a\nb", .plain⟩, ⟨"c", .plain⟩]), ({ Clock.fixed with minutes := 721 }, [⟨" a\r\nb ", .plain⟩])]
    let events : List Event :=
      [.call .fixed ⟨"a\nb", .plain⟩, .advance 0, .call .fixed ⟨" a\r\nb ", .plain⟩, .abandon 0, .advance 1]
    (∀ r ∈ pictures, ∃ text, letters.uncached r = .ok ⟨r.fingerprint, text⟩) ∧
      (letters.serve history).map (List.map Answer.result) =
        history.map (fun batch => batch.2.map fun r => some (letters.uncached r)) ∧
      ∃ c : Cache.Caller TypesetError, (letters.after events).callers[1]? = some c ∧
        ∀ result, c.stage = .done result → result = letters.uncached ⟨" a\r\nb ", .plain⟩ := by
  intro history events
  have hhonest : letters.backing.Honest (0, ∅) := (Backing.honest_shelf false false).failing (· == 1)
  obtain ⟨hserve, hafter⟩ :=
    answers_eq_uncached letters rfl hhonest Typesetter.clockless_lettering separated_pictures
  refine ⟨fun r hr => uncached_letters ?_, hserve history (by decide), hafter events ?_ 1 _ rfl⟩
  · simp only [pictures, List.mem_cons, List.not_mem_nil, or_false] at hr
    rcases hr with rfl | rfl | rfl <;> rfl
  · intro clock r h
    simp only [events, List.mem_cons, List.not_mem_nil, Event.call.injEq, reduceCtorEq, false_or, or_false] at h
    obtain ⟨-, rfl⟩ | ⟨-, rfl⟩ := h <;> decide

end Service
end Galley
