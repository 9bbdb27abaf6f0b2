import Galley.Proofs.Session.Dialogue
import Galley.Typesetter

/-! # The dialogue of typesetting

The dialogue of typesetting a request is that of its session, from the start function on.
What is carried by it and holds of an empty desk holds of the files that the engine leaves,
and so tells the result: the one that is made of these files where the run comes to its end,
and an error with their console lines where it is stopped (`Session.Carried.typeset`). -/
namespace Galley

variable {σ : Type}

namespace Typesetter
open Session

variable {t : Typesetter σ} {r : Request}

/-- The dialogue of the session in which a request is typeset; none if there is no session. -/
def dialogue? (t : Typesetter σ) (r : Request) : Option (List Exchange) :=
  match t.setOut r #[] with
  | .error _ _ => none
  | .ok desk asked =>
    match Session.start t.host t.engine t.config.memoryPages t.image desk asked with
    | (.error _, _) => none
    | (.ok (), s) =>
      some (setupDialogue t.host t.engine t.config.memoryPages t.image desk asked ++ runDialogue t.host t.budget s)

/-- The transcript that a result or an error carries; an error from before the run has none. -/
def transcript? : Except TypesetError Typeset → Option (Array String)
  | .ok p => some p.transcript
  | .error (.stopped _ transcript) => some transcript
  | .error (.outOfFuel transcript) => some transcript
  | .error (.noOutput transcript) => some transcript
  | .error _ => none

section Setup
variable {P : Desk → Prop}

theorem insertAll_induction (hstored : ∀ {d} name content, P d → P (d.insert name content)) {d : Desk} (hd : P d)
    (files : List (String × ByteArray)) : P (d.insertAll files) := by
  induction files generalizing d with
  | nil => exact hd
  | cons file files ih => exact ih (hstored file.1 file.2 hd)

theorem preload_induction (hstored : ∀ {d} name content, P d → P (d.insert name content))
    {bundles : List (BundleKind × String)} {d d' : Desk} {asked asked' : Array String} (hd : P d)
    (hs : t.preload bundles d asked = .ok d' asked') : P d' := by
  induction bundles generalizing d asked with
  | nil =>
    cases hs
    exact hd
  | cons bundle bundles ih =>
    change EStateM.bind (t.loader.fetchBundle bundle.1 bundle.2) (fun files => t.preload bundles (d.insertAll files))
      asked = _ at hs
    simp only [EStateM.bind] at hs
    split at hs
    · exact ih (insertAll_induction hstored hd _) hs
    · cases hs

/-- What storing files keeps holds of the desk that the engine starts with, if it holds of an
empty one. -/
theorem setOut_induction (hstored : ∀ {d} name content, P d → P (d.insert name content))
    (hstart : P (.start t.config.script.toUTF8 t.fonts)) {d : Desk} {asked : Array String}
    (hs : t.setOut r #[] = .ok d asked) : P d := by
  change EStateM.bind (t.preload r.options.bundles _) _ #[] = _ at hs
  simp only [EStateM.bind] at hs
  split at hs
  next hpreload =>
    cases hs
    exact hstored _ _ (preload_induction hstored hstart hpreload)
  next => cases hs

end Setup
end Typesetter

namespace Session
open Typesetter

variable {P : List Exchange → Desk → Prop}

/-- **What the dialogue carries tells the result.** -/
theorem Carried.typeset (hP : Carried P) (t : Typesetter σ) (r : Request)
    (hstart : P [] (.start t.config.script.toUTF8 t.fonts)) :
    match t.dialogue? r with
    | none => ∃ error, (t.typeset r).1 = .error error ∧ transcript? (.error error) = none
    | some l =>
      (∃ s, P l s.desk ∧ (t.typeset r).1 = t.outcome s s.desk.console.flush.transcript) ∨
        ∃ cause d, P l d ∧ (t.typeset r).1 = .error (failure cause d.console.flush.transcript) := by
  cases hsetOut : t.setOut r #[] with
  | error e asked =>
    simp only [dialogue?, Typesetter.typeset, hsetOut]
    exact ⟨_, rfl, rfl⟩
  | ok desk asked =>
    have hdesk : P [] desk := setOut_induction (P := P []) (fun name content => hP.stored name content) hstart hsetOut
    rcases hset : Session.start t.host t.engine t.config.memoryPages t.image desk asked with ⟨e | u, s⟩
    · simp only [dialogue?, Typesetter.typeset, hsetOut, hset]
      cases e <;> exact ⟨_, rfl, rfl⟩
    · have hrun := hP.run (h := t.host) (hP.start hdesk hset) t.budget
      simp only [dialogue?, Typesetter.typeset, hsetOut, hset]
      generalize Session.run t.host t.budget s = result at hrun ⊢
      cases result with
      | ok u s' => exact Or.inl ⟨s', hrun, rfl⟩
      | error cause s' =>
        obtain ⟨d, hd, hconsole⟩ := hrun
        refine Or.inr ⟨cause, d, hd, ?_⟩
        rw [← hconsole]

end Session
end Galley
