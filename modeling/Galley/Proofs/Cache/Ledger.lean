import Galley.Proofs.Cache.Batch

/-! # Accounts of calls made in turn

When calls are made one after another, what becomes of a call depends on the `Account` of
its fingerprint alone: the document that is complete, and what the backing has of it.  For
this the backing has to fall apart into one part a fingerprint (`Backing.Division`), as none
and shelves do, also when loads and saves of any chosen fingerprints fail.  `serve` is what
a call does to its account, `books` are all accounts after calls, and `answersIn` are the
answers. -/
namespace Galley
open Cache

variable {σ ε V : Type}

namespace Backing

/-- How the state of a backing falls apart: a load or a save of a fingerprint depends on its
part, and changes no other. -/
structure Division (b : Backing σ) (V : Type) where
  part : Fingerprint → σ → V
  load : Fingerprint → V → Option String × V
  save : Fingerprint → String → V → V
  load_result : ∀ f s, (b.load f s).1 = (load f (part f s)).1
  part_load : ∀ f g s, part g (b.load f s).2 = if g = f then (load f (part f s)).2 else part g s
  part_save : ∀ f g markup s,
    part g (b.save f markup s) = if g = f then save f markup (part f s) else part g s

/-- A shelf of which the loads and the saves of some fingerprints fail. -/
def faulty (failsLoad failsSave : Fingerprint → Bool) : Backing Shelf :=
  { load := fun f s => (if failsLoad f then Option.none else s[f]?, s)
    save := fun f markup s => if failsSave f then s else s.insert f markup }

theorem shelf_eq_faulty (failLoad failSave : Bool) :
    shelf failLoad failSave = faulty (fun _ => failLoad) fun _ => failSave := rfl

namespace Division

/-- Without a backing there is nothing to fall apart. -/
def trivial : Backing.none.Division Unit where
  part _ _ := ()
  load _ _ := (.none, ())
  save _ _ _ := ()
  load_result _ _ := rfl
  part_load _ _ _ := rfl
  part_save _ _ _ _ := rfl

/-- The part of a shelf is the markup that lies there. -/
def faulty (failsLoad failsSave : Fingerprint → Bool) :
    (Backing.faulty failsLoad failsSave).Division (Option String) where
  part f s := s[f]?
  load f v := (if failsLoad f then .none else v, v)
  save f markup v := if failsSave f then v else some markup
  load_result _ _ := rfl
  part_load f g s := by
    by_cases hg : g = f
    · rw [hg, if_pos rfl]
      rfl
    · rw [if_neg hg]
      rfl
  part_save f g markup s := by
    simp only [Backing.faulty]
    by_cases hfail : failsSave f = true
    · simp only [hfail, if_true]
      by_cases hg : g = f
      · rw [hg, if_pos rfl]
      · rw [if_neg hg]
    · simp only [hfail]
      by_cases hg : g = f
      · rw [hg, if_pos rfl]
        exact Std.HashMap.getElem?_insert_self
      · rw [if_neg hg]
        exact (Std.HashMap.getElem?_insert).trans (if_neg fun h => hg (beq_iff_eq.mp h).symm)

end Division
end Backing

/-- What matters of a fingerprint to a call that nobody disturbs. -/
structure Account (V : Type) where
  document : Option Rendered
  part : V

namespace Backing.Division

variable {b : Backing σ} (D : b.Division V)

/-- The account of a fingerprint in a cache. -/
def account (c : Cache σ) (f : Fingerprint) : Account V :=
  { document := c.get f, part := D.part f c.store }

/-- What becomes of a call by itself, and of its account: a document that is there is the
answer, then markup that the backing has, and then the outcome of the render function. -/
def serve (a : Account V) (call : Cache.Call ε) : Answer ε × Account V :=
  match a.document with
  | some d => ({ result := some (.ok d), ran := false }, a)
  | .none =>
    match D.load call.1 a.part with
    | (some markup, part) =>
      let d : Rendered := { fingerprint := call.1, markup }
      ({ result := some (.ok d), ran := false }, { document := some d, part })
    | (.none, part) =>
      match call.2.get with
      | .ok markup =>
        let d : Rendered := { fingerprint := call.1, markup }
        ({ result := some (.ok d), ran := true },
          { document := some d, part := D.save call.1 markup part })
      | .error e => ({ result := some (.error e), ran := true }, { document := .none, part })

/-- The accounts after a call. -/
def post (A : Fingerprint → Account V) (call : Cache.Call ε) : Fingerprint → Account V := fun f =>
  if f = call.1 then (D.serve (A f) call).2 else A f

/-- The accounts after calls in turn. -/
def books (A : Fingerprint → Account V) (calls : List (Cache.Call ε)) : Fingerprint → Account V :=
  calls.foldl D.post A

/-- The answers to calls in turn. -/
def answersIn (A : Fingerprint → Account V) (calls : List (Cache.Call ε)) : List (Answer ε) :=
  calls.mapIdx fun i call => (D.serve (D.books A (calls.take i) call.1) call).1

variable {D} {A : Fingerprint → Account V} {calls : List (Cache.Call ε)} {f : Fingerprint}

/-! ## Loads and saves in the parts -/

theorem load_part {s s' : σ} {found : Option String} (h : b.load f s = (found, s')) :
    D.load f (D.part f s) = (found, D.part f s') := by
  have hpart := D.part_load f f s
  rw [h, if_pos rfl] at hpart
  have hresult := D.load_result f s
  rw [h] at hresult
  exact Prod.ext hresult.symm hpart.symm

theorem part_of_load {s s' : σ} {found : Option String} (h : b.load f s = (found, s')) {g : Fingerprint}
    (hg : g ≠ f) : D.part g s' = D.part g s := by
  have hpart := D.part_load f g s
  rwa [h, if_neg hg] at hpart

/-! ## Books -/

theorem post_self (A : Fingerprint → Account V) (call : Cache.Call ε) :
    D.post A call call.1 = (D.serve (A call.1) call).2 := if_pos rfl

theorem books_take_succ {i : Nat} {call : Cache.Call ε} (hi : calls[i]? = some call) :
    D.books A (calls.take (i + 1)) = D.post (D.books A (calls.take i)) call := by
  rw [List.take_add_one, hi, books, List.foldl_append]
  rfl

theorem books_take_of_none {i : Nat} (hi : calls[i]? = .none) :
    D.books A (calls.take (i + 1)) = D.books A (calls.take i) := by
  rw [List.take_add_one, hi, Option.toList_none, List.append_nil]

/-- Calls for others leave an account as it is. -/
theorem books_take_of_others {n i : Nat} (hni : n ≤ i)
    (hothers : ∀ {k call}, n ≤ k → k < i → calls[k]? = some call → call.1 ≠ f) :
    D.books A (calls.take i) f = D.books A (calls.take n) f := by
  obtain ⟨k, rfl⟩ := Nat.exists_eq_add_of_le hni
  induction k with
  | zero => rfl
  | succ k ih =>
    have hbefore := ih (Nat.le_add_right n k) fun hk hki => hothers hk (Nat.lt_succ_of_lt hki)
    rw [← hbefore, ← Nat.add_assoc]
    cases hcall : calls[n + k]? with
    | none => rw [books_take_of_none hcall]
    | some call =>
      rw [books_take_succ hcall, post, if_neg (hothers (Nat.le_add_right n k) (Nat.lt_succ_self _) hcall).symm]

/-! ## Calls by themselves -/

theorem serve_of_document {a : Account V} {d : Rendered} (h : a.document = some d) (call : Cache.Call ε) :
    D.serve a call = ({ result := some (.ok d), ran := false }, a) := by
  rw [serve, h]

theorem serve_of_found {a : Account V} {call : Cache.Call ε} {markup : String} {part : V} (h : a.document = .none)
    (hload : D.load call.1 a.part = (some markup, part)) :
    D.serve a call = ({ result := some (.ok ⟨call.1, markup⟩), ran := false }, ⟨some ⟨call.1, markup⟩, part⟩) := by
  simp only [serve, h, hload]

theorem serve_of_rendered {a : Account V} {call : Cache.Call ε} {markup : String} {part : V} (h : a.document = .none)
    (hload : D.load call.1 a.part = (.none, part)) (hout : call.2.get = .ok markup) :
    D.serve a call = ({ result := some (.ok ⟨call.1, markup⟩), ran := true },
      ⟨some ⟨call.1, markup⟩, D.save call.1 markup part⟩) := by
  simp only [serve, h, hload, hout]

theorem serve_of_failed {a : Account V} {call : Cache.Call ε} {e : ε} {part : V} (h : a.document = .none)
    (hload : D.load call.1 a.part = (.none, part)) (hout : call.2.get = .error e) :
    D.serve a call = ({ result := some (.error e), ran := true }, ⟨.none, part⟩) := by
  simp only [serve, h, hload, hout]

/-- An account with a document stays as it is. -/
theorem books_take_of_document {n i : Nat} (hni : n ≤ i) {d : Rendered}
    (h : (D.books A (calls.take n) f).document = some d) :
    D.books A (calls.take i) f = D.books A (calls.take n) f := by
  obtain ⟨k, rfl⟩ := Nat.exists_eq_add_of_le hni
  induction k with
  | zero => rfl
  | succ k ih =>
    have hbefore := ih (Nat.le_add_right n k)
    rw [← hbefore, ← Nat.add_assoc]
    cases hcall : calls[n + k]? with
    | none => rw [books_take_of_none hcall]
    | some call =>
      rw [books_take_succ hcall, post]
      split
      · rw [serve_of_document (hbefore ▸ h)]
      · rfl

theorem getElem?_answersIn (i : Nat) :
    (D.answersIn A calls)[i]? = (calls[i]?).map fun call => (D.serve (D.books A (calls.take i) call.1) call).1 :=
  List.getElem?_mapIdx

theorem answersIn_cons (call : Cache.Call ε) (calls : List (Cache.Call ε)) :
    D.answersIn A (call :: calls) = (D.serve (A call.1) call).1 :: D.answersIn (D.post A call) calls := by
  refine List.ext_getElem? fun i => ?_
  rw [getElem?_answersIn]
  cases i with
  | zero => rfl
  | succ i =>
    rw [List.getElem?_cons_succ, List.getElem?_cons_succ, getElem?_answersIn]
    rfl

end Backing.Division
end Galley
