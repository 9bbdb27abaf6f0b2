import Galley.Proofs.Cache.Coalescing
import Mathlib.Algebra.GroupWithZero.Nat

/-! # Every call ends

`Machine.left` bounds the steps that the callers still have to make.  Every step of a
caller lowers it, and in a coherent machine some caller can make one as long as not all
have ended: the first in the queue of any slot.  So every round lowers it until it is zero
(`Coherent.left_round_lt`), and enough rounds bring all callers to their ends. -/
namespace Galley
open Cache

variable {σ ε : Type}

namespace Cache

/-- How many steps a caller in a stage has yet to make, at most. -/
def Stage.left : Stage ε → Nat
  | .waiting => 4
  | .loading => 3
  | .rendering => 2
  | .saving _ => 1
  | .done _ => 0
  | .abandoned => 0

theorem Stage.left_pos_iff {stage : Stage ε} : 0 < stage.left ↔ stage.holds = true := by
  cases stage <;> simp [left, holds]

end Cache
namespace Machine

/-- How many steps the callers have yet to make, at most. -/
def left (m : Machine σ ε) : Nat := (m.callers.toList.map fun c => c.stage.left).sum

theorem sum_map_modify {α : Type} (weight : α → Nat) (change : α → α) {l : List α} {i : Nat} {a : α}
    (hi : l[i]? = some a) :
    ((l.modify i change).map weight).sum + weight a = (l.map weight).sum + weight (change a) := by
  induction l generalizing i with
  | nil => cases hi
  | cons x l ih =>
    cases i with
    | zero =>
      cases hi
      simp only [List.modify_zero_cons, List.map_cons, List.sum_cons]
      omega
    | succ i =>
      have hrest := ih hi
      simp only [List.modify_succ_cons, List.map_cons, List.sum_cons]
      omega

theorem left_le (m : Machine σ ε) : m.left ≤ 4 * m.callers.size := by
  rw [left, ← Array.length_toList]
  induction m.callers.toList with
  | nil => exact Nat.le_refl _
  | cons c more ih =>
    have hc : c.stage.left ≤ 4 := by cases c.stage <;> simp [Stage.left]
    rw [List.map_cons, List.sum_cons, List.length_cons]
    omega

variable {b : Backing σ} {m m' : Machine σ ε}

theorem left_modifyCaller (m : Machine σ ε) {i : Nat} {c : Caller ε} (hi : m.callers[i]? = some c)
    (change : Caller ε → Caller ε) :
    (m.modifyCaller i change).left + c.stage.left = m.left + (change c).stage.left := by
  rw [left, modifyCaller, Array.toList_modify]
  exact sum_map_modify (fun c => c.stage.left) change (by rwa [Array.getElem?_toList])

theorem left_setStage_lt (cache : Cache σ) {i : Nat} {c : Caller ε} {stage : Stage ε}
    (hi : m.callers[i]? = some c) (h : stage.left < c.stage.left) :
    (({ m with cache } : Machine σ ε).setStage i stage).left < m.left := by
  have hsum : (({ m with cache } : Machine σ ε).setStage i stage).left + c.stage.left = m.left + stage.left :=
    left_modifyCaller { m with cache } hi fun c => { c with stage }
  omega

/-- A step of a caller that was there before brings the end nearer. -/
theorem Step.left_lt (h : Step b m m') (hsize : m'.callers.size = m.callers.size) : m'.left < m.left := by
  have harrived {cache : Cache σ} {f : Fingerprint} {outcome : Thunk (Except ε String)} {slot : Nat}
      {stage : Stage ε} : (m.arrive cache f outcome slot stage).callers.size ≠ m.callers.size := by
    rw [arrive, Array.size_push]
    exact Nat.succ_ne_self _
  have hstage (cache : Cache σ) {i : Nat} {c : Caller ε} {stage : Stage ε} (hi : m.callers[i]? = some c)
      (h : stage.left < c.stage.left) :
      (({ m with cache } : Machine σ ε).setStage i stage).left < m.left := left_setStage_lt cache hi h
  cases h with
  | hit hl hd => exact absurd hsize harrived
  | join hl hd => exact absurd hsize harrived
  | begin hl => exact absurd hsize harrived
  | serve hi hs hd => exact hstage _ hi (by simp [hs, Stage.left])
  | turn hi hs hslot hd hq => exact hstage _ hi (by simp [hs, Stage.left])
  | found hi hs hb => exact hstage _ hi (by simp [hs, Stage.left])
  | @missed i c store hi hs hb =>
    have hsum : ((m.withStore store).modifyCaller i fun c => { c with stage := .rendering, ran := true }).left +
        c.stage.left = m.left + 2 := left_modifyCaller (m.withStore store) hi _
    have hloading : c.stage.left = 3 := by rw [hs]; rfl
    omega
  | rendered hi hs ho => exact hstage m.cache hi (by simp [hs, Stage.left])
  | failed hi hs ho => exact hstage _ hi (by simp [hs, Stage.left])
  | saved hi hs => exact hstage _ hi (by simp [hs, Stage.left])
  | abandoned hi hs => exact hstage _ hi (Stage.left_pos_iff.mpr hs)

theorem size_advance (b : Backing σ) (m : Machine σ ε) (i : Nat) :
    (m.advance b i).callers.size = m.callers.size := by
  unfold advance consult await
  repeat' split
  all_goals first | rfl | exact Array.size_modify

/-- To advance a caller changes nothing, or brings the end nearer. -/
theorem advance_eq_or_left_lt (b : Backing σ) (m : Machine σ ε) (i : Nat) :
    m.advance b i = m ∨ (m.advance b i).left < m.left := by
  obtain hsame | hstep := advance_cases b m i
  · exact Or.inl hsame
  · exact Or.inr (hstep.left_lt (size_advance b m i))

/-! ## Rounds -/

/-- Callers that advance in turn change nothing, none of them, or bring the end nearer. -/
theorem foldl_advance_cases (b : Backing σ) (m : Machine σ ε) (callers : List Nat) :
    (callers.foldl (advance b) m = m ∧ ∀ i ∈ callers, m.advance b i = m) ∨
      (callers.foldl (advance b) m).left < m.left := by
  induction callers generalizing m with
  | nil => exact Or.inl ⟨rfl, nofun⟩
  | cons i callers ih =>
    rw [List.foldl_cons]
    obtain hsame | hlt := advance_eq_or_left_lt b m i
    · rw [hsame]
      obtain ⟨hrest, hall⟩ | hlt := ih m
      · refine Or.inl ⟨hrest, ?_⟩
        rintro j (_ | ⟨_, hj⟩)
        · exact hsame
        · exact hall j hj
      · exact Or.inr hlt
    · obtain ⟨hrest, -⟩ | hlt' := ih (m.advance b i)
      · rw [hrest]
        exact Or.inr hlt
      · exact Or.inr (Nat.lt_trans hlt' hlt)

/-- While a caller has a slot in hand, some caller can make a step. -/
theorem Coherent.exists_advance_step (hm : m.Coherent) (b : Backing σ) {i : Nat} {c : Caller ε}
    (hi : m.callers[i]? = some c) (hs : c.stage.holds = true) :
    ∃ j, j < m.callers.size ∧ Step b m (m.advance b j) := by
  have hqueued : i ∈ m.cache.queueIn c.slot := hm.queued_iff.mpr ⟨c, hi, rfl, hs⟩
  obtain ⟨j, hhead⟩ : ∃ j, (m.cache.queueIn c.slot).head? = some j := by
    cases hq : m.cache.queueIn c.slot with
    | nil =>
      rw [hq] at hqueued
      cases hqueued
    | cons j more => exact ⟨j, rfl⟩
  obtain ⟨d, hj, hslot, hd⟩ := hm.queued_iff.mp (List.mem_of_mem_head? hhead)
  refine ⟨j, (Array.getElem?_eq_some_iff.mp hj).1, advance_step b m hj hd fun _ => ?_⟩
  have hlt := hm.entry_lt (hm.led hj hd)
  refine ⟨m.cache.slots[d.slot], Array.getElem?_eq_getElem hlt, fun _ => ?_⟩
  rw [← hslot, queueIn, Array.getElem?_eq_getElem hlt] at hhead
  exact hhead

theorem exists_holds (h : 0 < m.left) :
    ∃ (i : Nat) (c : Caller ε), m.callers[i]? = some c ∧ c.stage.holds = true := by
  obtain ⟨weight, hmem, hpos⟩ := List.sum_pos_iff_exists_pos_nat.mp h
  obtain ⟨c, hc, rfl⟩ := List.mem_map.mp hmem
  obtain ⟨i, hi⟩ := List.mem_iff_getElem?.mp hc
  exact ⟨i, c, by rwa [Array.getElem?_toList] at hi, Stage.left_pos_iff.mp hpos⟩

/-- **A round brings the end nearer**, unless all have ended. -/
theorem Coherent.left_round_lt (hm : m.Coherent) (b : Backing σ) (h : 0 < m.left) : (m.round b).left < m.left := by
  obtain ⟨i, c, hi, hs⟩ := exists_holds h
  obtain ⟨j, hj, hstep⟩ := hm.exists_advance_step b hi hs
  obtain ⟨-, hidle⟩ | hlt := foldl_advance_cases b m (List.range m.callers.size)
  · have hless := hstep.left_lt (size_advance b m j)
    rw [hidle j (List.mem_range.mpr hj)] at hless
    exact absurd hless (Nat.lt_irrefl _)
  · exact hlt

theorem round_eq_after (b : Backing σ) (m : Machine σ ε) :
    m.round b = m.after b ((List.range m.callers.size).map .advance) := by
  rw [round, after, List.foldl_map]
  rfl

theorem Coherent.round (hm : m.Coherent) (b : Backing σ) : (m.round b).Coherent := by
  rw [round_eq_after]
  exact after_induction (P := Coherent) (fun hm h => hm.step h) hm _

/-- Enough rounds bring all callers to their ends. -/
theorem Coherent.left_rounds (hm : m.Coherent) (b : Backing σ) {n : Nat} (h : m.left ≤ n) :
    (m.rounds b n).left = 0 := by
  induction n generalizing m with
  | zero => exact Nat.le_zero.mp h
  | succ n ih =>
    refine ih (hm.round b) ?_
    by_cases hpos : 0 < m.left
    · have hlt := hm.left_round_lt b hpos
      omega
    · obtain ⟨hsame, -⟩ | hlt := foldl_advance_cases b m (List.range m.callers.size)
      · show (Machine.round b m).left ≤ n
        rw [Machine.round, hsame]
        omega
      · omega

end Machine
end Galley
