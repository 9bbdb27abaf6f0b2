import Galley.Proofs.Cache.Provenance
import Mathlib.Data.List.Forall2

/-! # Batches

A batch of calls is a run: the calls enter in order, and then advance in rounds.  There are
rounds enough for all of them to end, and so every call is answered, by some outcome of the
render functions for its fingerprint (`Cache.batch_answers`). -/
namespace Galley
open Cache

variable {σ ε : Type}

/-- The call that a caller makes. -/
def Cache.Caller.call (c : Caller ε) : Call ε := (c.fingerprint, c.outcome)

namespace Machine

variable {b : Backing σ} {kept : σ} {T : Fingerprint → Except ε String → Prop} {m : Machine σ ε}

/-! ## The calls of a run -/

/-- The calls that are made in a run, in order. -/
def callsIn (events : List (Event ε)) : List (Cache.Call ε) :=
  events.filterMap fun
    | .enter f outcome => some (f, outcome)
    | _ => none

theorem callsIn_enter (calls : List (Cache.Call ε)) :
    callsIn (calls.map fun call => .enter call.1 call.2) = calls := by
  simp [callsIn, List.filterMap_map]

theorem callsIn_advance (callers : List Nat) : callsIn (callers.map .advance : List (Event ε)) = [] := by
  simp [callsIn, List.filterMap_map]

/-- The calls that the callers of a machine make, in order of arrival. -/
def calls (m : Machine σ ε) : List (Cache.Call ε) := m.callers.toList.map Caller.call

theorem getElem?_calls (m : Machine σ ε) (i : Nat) : m.calls[i]? = (m.callers[i]?).map Caller.call := by
  rw [calls, List.getElem?_map, Array.getElem?_toList]

theorem length_calls (m : Machine σ ε) : m.calls.length = m.callers.size := by
  rw [calls, List.length_map, Array.length_toList]

theorem calls_modifyCaller (cache : Cache σ) {i : Nat} {change : Caller ε → Caller ε}
    (hcall : ∀ c, (change c).call = c.call) :
    (({ m with cache } : Machine σ ε).modifyCaller i change).calls = m.calls := by
  refine List.ext_getElem? fun j => ?_
  rw [getElem?_calls, getElem?_calls, getElem?_modifyCaller]
  split
  · rw [Option.map_map]
    exact congrArg (Option.map · _) (funext hcall)
  · rfl

theorem calls_enter (m : Machine σ ε) (f : Fingerprint) (outcome : Thunk (Except ε String)) :
    (m.enter f outcome).calls = m.calls ++ [(f, outcome)] := by
  obtain ⟨c, hpush, hprint, hout, -⟩ := enter_callers m f outcome
  rw [calls, hpush, Array.toList_push, List.map_append, ← hprint, ← hout]
  rfl

theorem calls_advance (b : Backing σ) (m : Machine σ ε) (i : Nat) : (m.advance b i).calls = m.calls := by
  unfold advance consult await
  repeat' split
  all_goals first | rfl | exact calls_modifyCaller _ fun _ => rfl

theorem calls_abandon (m : Machine σ ε) (i : Nat) : (m.abandon i).calls = m.calls := by
  unfold abandon
  repeat' split
  all_goals first | rfl | exact calls_modifyCaller _ fun _ => rfl

/-- A run adds its calls to those that were made before. -/
theorem calls_after (b : Backing σ) (m : Machine σ ε) (events : List (Event ε)) :
    (m.after b events).calls = m.calls ++ callsIn events := by
  induction events generalizing m with
  | nil => exact (List.append_nil _).symm
  | cons event events ih =>
    refine (ih (m.happen b event)).trans ?_
    cases event with
    | enter f outcome =>
      rw [happen, calls_enter, List.append_assoc]
      rfl
    | advance i =>
      rw [happen, calls_advance]
      rfl
    | abandon i =>
      rw [happen, calls_abandon]
      rfl

/-- Nobody has been abandoned. -/
def Attended (m : Machine σ ε) : Prop :=
  ∀ (i : Nat) (c : Caller ε), m.callers[i]? = some c → c.stage ≠ .abandoned

theorem Attended.modifyCaller (hm : m.Attended) (cache : Cache σ) {i : Nat} {change : Caller ε → Caller ε}
    (hstage : ∀ c, (change c).stage ≠ .abandoned) :
    (({ m with cache } : Machine σ ε).modifyCaller i change).Attended := by
  intro j d hj
  obtain ⟨-, hold⟩ | ⟨rfl, d, hold, rfl⟩ := modifyCaller_eq_some.mp hj
  · exact hm j _ hold
  · exact hstage d

theorem Attended.advance (hm : m.Attended) (b : Backing σ) (i : Nat) : (m.advance b i).Attended := by
  unfold Machine.advance consult await
  repeat' split
  all_goals first | exact hm | exact hm.modifyCaller _ fun _ => nofun

theorem Attended.enter (hm : m.Attended) (f : Fingerprint) (outcome : Thunk (Except ε String)) :
    (m.enter f outcome).Attended := by
  obtain ⟨c, hpush, -, -, hstage⟩ := enter_callers m f outcome
  intro i d hi
  rw [hpush, Array.getElem?_push] at hi
  split at hi
  · obtain rfl := Option.some.inj hi
    exact hstage
  · exact hm i d hi

/-- A run in which nobody is abandoned. -/
theorem Attended.after (hm : m.Attended) (b : Backing σ) {events : List (Event ε)}
    (hevents : ∀ i, .abandon i ∉ events) : (m.after b events).Attended := by
  induction events generalizing m with
  | nil => exact hm
  | cons event events ih =>
    have hrest := fun i h => hevents i (List.mem_cons_of_mem _ h)
    cases event with
    | enter f outcome => exact ih (hm.enter f outcome) hrest
    | advance i => exact ih (hm.advance b i) hrest
    | abandon i => exact absurd (List.mem_cons_self ..) (hevents i)

/-! ## Ends -/

theorem not_holds_of_left (h : m.left = 0) {i : Nat} {c : Caller ε} (hi : m.callers[i]? = some c) :
    ¬ c.stage.holds = true := by
  intro hs
  have hpos : 0 < m.left := by
    refine List.sum_pos_iff_exists_pos_nat.mpr ⟨c.stage.left, ?_, Stage.left_pos_iff.mpr hs⟩
    exact List.mem_map.mpr ⟨c, List.mem_of_getElem? (by rwa [Array.getElem?_toList]), rfl⟩
  omega

/-- When all callers have ended and nobody was abandoned, every call has its result. -/
theorem done_of_left (hkept : m.Attended) (hended : m.left = 0) {i : Nat} {c : Caller ε}
    (hi : m.callers[i]? = some c) : ∃ result, c.stage = .done result := by
  have hnot := not_holds_of_left hended hi
  cases hs : c.stage with
  | done result => exact ⟨result, rfl⟩
  | abandoned => exact absurd hs (hkept i c hi)
  | _ => exact absurd (by rw [hs]; rfl) hnot

/-- When all callers have ended, each has been answered by an outcome for its fingerprint. -/
theorem Sourced.answers (hs : m.Sourced b kept T) (hkept : m.Attended) (hended : m.left = 0) :
    List.Forall₂ (fun call answer => ∃ outcome, T call.1 outcome ∧
      answer.result = some (outcome.map (Rendered.mk call.1))) m.calls (m.callers.toList.map Caller.answer) := by
  rw [calls, List.forall₂_map_left_iff, List.forall₂_map_right_iff, List.forall₂_same]
  intro c hc
  obtain ⟨i, hi⟩ := List.mem_iff_getElem?.mp hc
  rw [Array.getElem?_toList] at hi
  obtain ⟨result, hdone⟩ := done_of_left hkept hended hi
  have hstage := hs.stage hi
  rw [hdone] at hstage
  obtain ⟨outcome, hT, rfl⟩ := hstage
  refine ⟨outcome, hT, ?_⟩
  rw [Caller.answer, hdone]
  rfl

/-- The rounds of a batch are advances. -/
theorem exists_rounds_eq_after (b : Backing σ) (m : Machine σ ε) (n : Nat) :
    ∃ callers : List Nat, m.rounds b n = m.after b (callers.map .advance) := by
  induction n generalizing m with
  | zero => exact ⟨[], rfl⟩
  | succ n ih =>
    obtain ⟨callers, h⟩ := ih (m.round b)
    refine ⟨List.range m.callers.size ++ callers, ?_⟩
    rw [rounds, h, round_eq_after, List.map_append, after_append]

end Machine

namespace Cache

/-- Between batches: nobody calls, and every document is an outcome in `T`. -/
structure Sourced (b : Backing σ) (kept : σ) (T : Fingerprint → Except ε String → Prop) (c : Cache σ) : Prop where
  coherent : ({ cache := c, callers := #[] } : Machine σ ε).Coherent
  sourced : ({ cache := c, callers := #[] } : Machine σ ε).Sourced b kept T

theorem Sourced.start (b : Backing σ) (kept : σ) (T : Fingerprint → Except ε String → Prop) :
    (Cache.start kept).Sourced b kept T :=
  ⟨.start kept, .start b kept T⟩

variable {b : Backing σ} {kept : σ} {T : Fingerprint → Except ε String → Prop} {cache : Cache σ}
  {calls : List (Cache.Call ε)}

/-- When all callers of a coherent machine have ended, its cache is coherent without them. -/
theorem coherent_of_left {m : Machine σ ε} (hm : m.Coherent) (h : m.left = 0) :
    ({ cache := m.cache, callers := #[] } : Machine σ ε).Coherent := by
  have hqueue (i s : Nat) : i ∉ m.cache.queueIn s := by
    intro hi
    obtain ⟨c, hc, -, hs⟩ := hm.queued_iff.mp hi
    exact Machine.not_holds_of_left h hc hs
  exact ⟨hm.entry_lt, hm.entry_inj, by simp [hqueue], fun h => by simp at h, fun h => by simp at h,
    hm.titled, fun h => by simp at h⟩

/-- A batch is a run: its calls enter in order, nobody is abandoned, and all end. -/
theorem exists_batch_eq_after (b : Backing σ) (hcache : ({ cache, callers := #[] } : Machine σ ε).Coherent)
    (calls : List (Cache.Call ε)) :
    ∃ events : List (Machine.Event ε), Machine.callsIn events = calls ∧ (∀ i, .abandon i ∉ events) ∧
      (({ cache, callers := #[] } : Machine σ ε).after b events).left = 0 ∧
      batch b cache calls =
        ((({ cache, callers := #[] } : Machine σ ε).after b events).callers.toList.map Caller.answer,
          (({ cache, callers := #[] } : Machine σ ε).after b events).cache) := by
  let first : Machine σ ε := { cache, callers := #[] }
  let entering : List (Machine.Event ε) := calls.map fun call => .enter call.1 call.2
  have hentered : calls.foldl (fun m call => m.enter call.1 call.2) first = first.after b entering := by
    rw [Machine.after, List.foldl_map]
    rfl
  obtain ⟨callers, hrounds⟩ := Machine.exists_rounds_eq_after b (first.after b entering) (roundsFor calls)
  have hrun : first.after b (entering ++ callers.map .advance) =
      (first.after b entering).rounds b (roundsFor calls) := by
    rw [Machine.after_append, hrounds]
  refine ⟨entering ++ callers.map .advance, ?_, ?_, ?_, ?_⟩
  · rw [Machine.callsIn, List.filterMap_append]
    exact (congrArg₂ _ (Machine.callsIn_enter calls) (Machine.callsIn_advance callers)).trans (List.append_nil _)
  · simp [entering]
  · -- a round moves everyone who has not ended, and nobody has more moves than there are rounds
    have hcoherent : (first.after b entering).Coherent :=
      Machine.after_induction (fun hm h => hm.step h) hcache entering
    have hsize : (first.after b entering).callers.size = calls.length := by
      rw [← Machine.length_calls, Machine.calls_after, Machine.callsIn_enter]
      exact congrArg List.length (List.nil_append calls)
    show (first.after b (entering ++ callers.map .advance)).left = 0
    rw [hrun]
    refine hcoherent.left_rounds b ?_
    rw [roundsFor, ← hsize]
    exact Machine.left_le _
  · show batch b cache calls =
      ((first.after b (entering ++ callers.map .advance)).callers.toList.map Caller.answer, _)
    rw [hrun, ← hentered]
    rfl

/-- **A batch answers all its calls**, each with an outcome for its fingerprint, and leaves
the cache fit for the next one. -/
theorem batch_answers (hb : b.Honest kept) (hcache : cache.Sourced b kept T)
    (hcalls : ∀ call ∈ calls, T call.1 call.2.get) :
    List.Forall₂ (fun call answer => ∃ outcome, T call.1 outcome ∧
        answer.result = some (outcome.map (Rendered.mk call.1))) calls (batch b cache calls).1 ∧
      (batch b cache calls).2.Sourced b kept T := by
  obtain ⟨events, rfl, hevents, hended, hbatch⟩ := exists_batch_eq_after b hcache.coherent calls
  let settled := ({ cache, callers := #[] } : Machine σ ε).after b events
  have hdone : settled.Coherent := Machine.after_induction (fun hm h => hm.step h) hcache.coherent events
  have hattended : settled.Attended := Machine.Attended.after (fun i c h => by simp at h) b hevents
  have hsourced : settled.Sourced b kept T := by
    refine hcache.sourced.after hb hcache.coherent fun f outcome h => hcalls (f, outcome) ?_
    exact List.mem_filterMap.mpr ⟨_, h, rfl⟩
  have hanswers := hsourced.answers hattended hended
  rw [Machine.calls_after] at hanswers
  rw [hbatch]
  exact ⟨hanswers, coherent_of_left hdone hended,
    hsourced.stored, hsourced.document, fun h => by simp at h, fun h => by simp at h⟩

end Cache
end Galley
