import Galley.Loader
import Galley.Proofs.Paired

/-! # What a loader has for a name

A load reads the store and adds to the names asked for; its outcome does not depend on what
was asked for before.  So a loader has one `content?` for a name, and a fetch for a waiting
guest always comes to an end with it (`fetchOptional_eq_ok`).  It asks the store for one name,
or for two if the file has an older name and is not found under the newer one. -/
namespace Galley.Loader

variable {α : Type} (l : Loader)

/-- Any two states are related: only the outcomes count. -/
private def Anything (_ _ : Array String) : Prop := True

private theorem paired_fetch (name : String) (asked asked' : Array String) :
    Paired Anything (l.fetch name asked) (l.fetch name asked') := by
  simp only [fetch]
  cases l.store name with
  | ok bytes => exact .ok trivial
  | error e =>
    cases e with
    | notFound => exact .error trivial
    | io cause => exact .error trivial

private theorem paired_inflate (name : String) (bytes : ByteArray) (asked asked' : Array String) :
    Paired Anything (inflate name bytes asked) (inflate name bytes asked') := by
  simp only [inflate]
  cases Gzip.decompress? bytes with
  | some data => exact .ok trivial
  | none => exact .error trivial

private theorem paired_fetchInflated (name : String) (asked asked' : Array String) :
    Paired Anything (l.fetchInflated name asked) (l.fetchInflated name asked') :=
  .bind (l.paired_fetch name asked asked') fun bytes {asked asked'} _ => paired_inflate name bytes asked asked'

private theorem paired_attempt {load : Loading α} {asked asked' : Array String}
    (h : Paired Anything (load asked) (load asked')) :
    Paired Anything (load.attempt asked) (load.attempt asked') := by
  simp only [Loading.attempt]
  generalize load asked = r at h ⊢
  generalize load asked' = r' at h ⊢
  cases h with
  | ok h => exact .ok h
  | error h => exact .ok h

private theorem paired_fetchFile (name : String) (asked asked' : Array String) :
    Paired Anything (l.fetchFile name asked) (l.fetchFile name asked') := by
  refine .bind (paired_attempt (l.paired_fetchInflated _ asked asked')) fun result {asked asked'} _ => ?_
  cases result with
  | ok data => exact .ok trivial
  | error e =>
    cases e with
    | notFound missing =>
      cases olderName? name with
      | some older => exact l.paired_fetchInflated _ asked asked'
      | none => exact .error trivial
    | io => exact .error trivial
    | inflate => exact .error trivial
    | manifest => exact .error trivial

/-- The content of a single file, if it can be had. -/
def content? (name : String) : Option ByteArray :=
  match l.fetchFile name #[] with
  | .ok data _ => some data
  | .error _ _ => none

/-! ## What the store is asked for -/

/-- The names asked for that a load leaves. -/
def askedAfter : EStateM.Result LoadError (Array String) α → Array String
  | .ok _ asked => asked
  | .error _ asked => asked

theorem askedAfter_fetchInflated (name : String) (asked : Array String) :
    askedAfter (l.fetchInflated name asked) = asked.push name := by
  simp only [fetchInflated, bind, EStateM.bind, fetch]
  cases l.store name with
  | ok bytes =>
    simp only [inflate]
    cases Gzip.decompress? bytes <;> rfl
  | error e => cases e <;> rfl

/-- A single file is asked for under its name, and then perhaps under its older one. -/
theorem askedAfter_fetchFile (name : String) (asked : Array String) :
    askedAfter (l.fetchFile name asked) = asked.push (l.filePath name) ∨
      ∃ older, olderName? name = some older ∧
        askedAfter (l.fetchFile name asked) = (asked.push (l.filePath name)).push (l.filePath older) := by
  have hfirst := l.askedAfter_fetchInflated (l.filePath name) asked
  simp only [fetchFile, bind, EStateM.bind, Loading.attempt]
  generalize l.fetchInflated (l.filePath name) asked = r at hfirst ⊢
  cases r with
  | ok data asked' => exact Or.inl hfirst
  | error e asked' =>
    cases e with
    | notFound missing =>
      cases holder : olderName? name with
      | none => exact Or.inl hfirst
      | some older =>
        refine Or.inr ⟨older, rfl, ?_⟩
        rw [← show asked' = asked.push (l.filePath name) from hfirst]
        exact l.askedAfter_fetchInflated (l.filePath older) asked'
    | io | inflate | manifest => exact Or.inl hfirst

theorem askedAfter_fetchOptional (name : String) (asked : Array String) :
    askedAfter (l.fetchOptional name asked) = askedAfter (l.fetchFile name asked) := by
  simp only [fetchOptional, bind, EStateM.bind, Loading.attempt]
  cases l.fetchFile name asked <;> rfl

/-! ## The outcome for a waiting guest -/

/-- A waiting guest always gets an answer, the same one however much was asked for before. -/
theorem fetchOptional_eq_ok (name : String) (asked : Array String) :
    ∃ asked', l.fetchOptional name asked = .ok (l.content? name) asked' := by
  have hpaired := l.paired_fetchFile name asked #[]
  simp only [fetchOptional, content?, bind, EStateM.bind, Loading.attempt]
  generalize l.fetchFile name asked = r at hpaired ⊢
  generalize l.fetchFile name #[] = r' at hpaired ⊢
  cases hpaired with
  | ok _ => exact ⟨_, rfl⟩
  | error _ => exact ⟨_, rfl⟩

end Galley.Loader
