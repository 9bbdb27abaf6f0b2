import Galley.Proofs.Request.Key
import Galley.Proofs.Text.Trimming
import Galley.Request.Document

/-! # Normal forms

Joining line ends and trimming commute, so the normal form of a source is what joining leaves of
its trimmed text (`normalize_eq_joinLineEnds`), and joining leaves a line end only where two
returns stood before the feed (`returnFeed_infix_joinLineEnds_iff`).  Line ends and padding
therefore do not show in a request (`Request.spelling_invisible`), while a normal form is one
again unless the source has such a run of returns (`Request.resubmitted_eq_iff`). -/
namespace Galley

/-! ## Line ends -/

/-- The line end of two characters. -/
def returnFeed : List Char := ['\r', '\n']

theorem joinLineEnds_returnFeed (rest : List Char) : joinLineEnds ('\r' :: '\n' :: rest) = '\n' :: joinLineEnds rest :=
  rfl

/-- A character that does not begin a line end of two stays. -/
theorem joinLineEnds_cons {c : Char} {rest : List Char} (h : c = '\r' → rest.head? ≠ some '\n') :
    joinLineEnds (c :: rest) = c :: joinLineEnds rest := by
  rw [joinLineEnds]
  rintro rest' rfl rfl
  exact h rfl rfl

/-- The cases of `joinLineEnds`, the last one in the form that `joinLineEnds_cons` takes. -/
@[elab_as_elim]
theorem lineEnds_induction {motive : List Char → Prop} (cs : List Char) (nil : motive [])
    (returnFeed : ∀ rest, motive rest → motive ('\r' :: '\n' :: rest))
    (cons : ∀ c rest, (c = '\r' → rest.head? ≠ some '\n') → motive rest → motive (c :: rest)) :
    motive cs := by
  fun_induction joinLineEnds cs with
  | case1 => exact nil
  | case2 rest ih => exact returnFeed rest ih
  | case3 c rest hne ih =>
    refine cons c rest (fun hc hhead => ?_) ih
    obtain ⟨rest', rfl⟩ := List.head?_eq_some_iff.mp hhead
    exact hne rest' hc rfl

theorem joinLineEnds_eq_nil {cs : List Char} : joinLineEnds cs = [] ↔ cs = [] := by
  induction cs using lineEnds_induction with
  | nil => exact Iff.rfl
  | returnFeed rest _ => simp only [joinLineEnds_returnFeed, reduceCtorEq]
  | cons c rest h _ => simp only [joinLineEnds_cons h, reduceCtorEq]

theorem dropWhile_joinLineEnds (cs : List Char) :
    (joinLineEnds cs).dropWhile Text.isBlank = joinLineEnds (cs.dropWhile Text.isBlank) := by
  induction cs using lineEnds_induction with
  | nil => rfl
  | returnFeed rest ih =>
    rw [joinLineEnds_returnFeed]
    simp only [List.dropWhile_cons, Text.isBlank_return, Text.isBlank_newline, if_true, ih]
  | cons c rest h ih =>
    rw [joinLineEnds_cons h, List.dropWhile_cons, List.dropWhile_cons]
    split
    · exact ih
    · exact (joinLineEnds_cons h).symm

theorem dropTrailing_joinLineEnds (cs : List Char) :
    Text.dropTrailing Text.isBlank (joinLineEnds cs) = joinLineEnds (Text.dropTrailing Text.isBlank cs) := by
  induction cs using lineEnds_induction with
  | nil => rfl
  | returnFeed rest ih =>
    rw [joinLineEnds_returnFeed]
    simp only [Text.dropTrailing_cons, Text.isBlank_return, Text.isBlank_newline, if_true, ih, joinLineEnds_eq_nil]
    by_cases hrest : Text.dropTrailing Text.isBlank rest = []
    · simp only [hrest, if_true, joinLineEnds]
    · simp only [hrest, if_false, reduceCtorEq, joinLineEnds_returnFeed]
  | cons c rest h ih =>
    rw [joinLineEnds_cons h]
    simp only [Text.dropTrailing_cons, ih, joinLineEnds_eq_nil]
    by_cases hrest : Text.dropTrailing Text.isBlank rest = []
    · simp only [hrest, if_true]
      split
      · rfl
      · have hsingle : joinLineEnds [c] = c :: joinLineEnds [] := joinLineEnds_cons (by simp)
        exact hsingle.symm
    · simp only [hrest, if_false]
      -- what is kept of the rest begins as the rest does
      exact (joinLineEnds_cons fun hc => Text.head?_dropTrailing hrest ▸ h hc).symm

/-- **A normal form is what joining leaves of the trimmed text.** -/
theorem normalize_eq_joinLineEnds (cs : List Char) : normalize cs = joinLineEnds (Text.trimList cs) := by
  rw [normalize, Text.trimList, dropWhile_joinLineEnds, dropTrailing_joinLineEnds, ← Text.trimList]

/-! ## What joining leaves -/

theorem returnFeed_prefix_cons {c : Char} {rest : List Char} :
    returnFeed <+: c :: rest ↔ c = '\r' ∧ rest.head? = some '\n' := by
  cases rest <;> simp [returnFeed, eq_comm]

theorem not_returnFeed_front {c : Char} {rest : List Char} (h : c = '\r' → rest.head? ≠ some '\n') :
    ¬ returnFeed <+: c :: rest := fun hpre =>
  h (returnFeed_prefix_cons.mp hpre).1 (returnFeed_prefix_cons.mp hpre).2

/-- Joining changes a text exactly if there is a line end of two characters in it. -/
theorem joinLineEnds_eq_self_iff {cs : List Char} : joinLineEnds cs = cs ↔ ¬ returnFeed <:+: cs := by
  induction cs using lineEnds_induction with
  | nil => simp [returnFeed, joinLineEnds]
  | returnFeed rest _ =>
    have hhere : returnFeed <:+: '\r' :: '\n' :: rest := (List.prefix_append ['\r', '\n'] rest).isInfix
    rw [joinLineEnds_returnFeed]
    simp [hhere]
  | cons c rest h ih =>
    rw [joinLineEnds_cons h, List.cons_inj_right, ih, List.infix_cons_iff, or_iff_right (not_returnFeed_front h)]

theorem head?_joinLineEnds {cs : List Char} :
    (joinLineEnds cs).head? = some '\n' ↔ cs.head? = some '\n' ∨ returnFeed <+: cs := by
  induction cs using lineEnds_induction with
  | nil => simp [returnFeed, joinLineEnds]
  | returnFeed rest _ =>
    rw [joinLineEnds_returnFeed]
    simp [returnFeed]
  | cons c rest h _ =>
    rw [joinLineEnds_cons h, List.head?_cons, List.head?_cons, or_iff_left (not_returnFeed_front h)]

/-- Joining leaves a line end of two characters exactly where one more return stood before it. -/
theorem returnFeed_infix_joinLineEnds_iff {cs : List Char} :
    returnFeed <:+: joinLineEnds cs ↔ '\r' :: returnFeed <:+: cs := by
  induction cs using lineEnds_induction with
  | nil => simp [returnFeed, joinLineEnds]
  | returnFeed rest ih =>
    rw [joinLineEnds_returnFeed]
    simp only [List.infix_cons_iff, ih, returnFeed_prefix_cons, List.cons_prefix_cons]
    simp
  | cons c rest h ih =>
    rw [joinLineEnds_cons h, List.infix_cons_iff, List.infix_cons_iff, ih, returnFeed_prefix_cons,
      head?_joinLineEnds, List.cons_prefix_cons, eq_comm (a := c)]
    refine or_congr_left (and_congr_right fun hc => ?_)
    rw [or_iff_right (h hc.symm)]

/-! ## Other spellings of a text -/

/-- The second text is the first with each line feed written as itself or behind a return, as may be. -/
inductive LineEnded : List Char → List Char → Prop
  | nil : LineEnded [] []
  | char {c : Char} {text written : List Char} : c ≠ '\n' → LineEnded text written →
    LineEnded (c :: text) (c :: written)
  | feed {text written : List Char} : LineEnded text written → LineEnded ('\n' :: text) ('\n' :: written)
  | returnFeed {text written : List Char} : LineEnded text written →
    LineEnded ('\n' :: text) ('\r' :: '\n' :: written)

theorem joinLineEnds_eq_self_of_notMem {text : List Char} (h : '\r' ∉ text) : joinLineEnds text = text :=
  joinLineEnds_eq_self_iff.mpr fun hin => h (hin.subset (List.mem_cons_self ..))

/-- Joining finds the text in each way of writing its line ends. -/
theorem LineEnded.joinLineEnds_eq {text written : List Char} (h : LineEnded text written) (hreturn : '\r' ∉ text) :
    joinLineEnds written = text := by
  induction h with
  | nil => rfl
  | char _ _ ih =>
    obtain ⟨hc, hrest⟩ := not_or.mp (List.mem_cons.not.mp hreturn)
    rw [joinLineEnds_cons fun h => absurd h.symm hc, ih hrest]
  | feed _ ih =>
    rw [joinLineEnds_cons fun h => absurd h (by decide), ih (List.not_mem_of_not_mem_cons hreturn)]
  | returnFeed _ ih => rw [joinLineEnds_returnFeed, ih (List.not_mem_of_not_mem_cons hreturn)]

/-- Padding does not show in a normal form, returns at its inner ends included. -/
theorem normalize_append {p q : List Char} (cs : List Char) (hp : ∀ c ∈ p, Text.isBlank c)
    (hq : ∀ c ∈ q, Text.isBlank c) : normalize (p ++ cs ++ q) = normalize cs := by
  rw [normalize_eq_joinLineEnds, Text.trimList_append cs hp hq, ← normalize_eq_joinLineEnds]

/-- The normal form of a text without returns, however its lines end, is the trimmed text. -/
theorem LineEnded.normalize_eq {text written : List Char} (h : LineEnded text written) (hreturn : '\r' ∉ text) :
    normalize written = Text.trimList text := by
  rw [normalize, h.joinLineEnds_eq hreturn]

namespace Request

theorem keyBytes_eq_iff_body {r s : Request} (hoptions : r.options = s.options) :
    r.keyBytes = s.keyBytes ↔ r.body = s.body := by
  rw [keyBytes, keyBytes, hoptions, List.append_left_inj]
  exact ⟨eq_of_bytes_eq, fun hbody => by rw [hbody]⟩

theorem fingerprint_of_body {r s : Request} (hoptions : r.options = s.options) (hbody : r.body = s.body) :
    r.fingerprint = s.fingerprint := by
  rw [fingerprint, fingerprint, (keyBytes_eq_iff_body hoptions).mpr hbody]

theorem document_eq_iff_body {r s : Request} (hoptions : r.options = s.options) :
    r.document = s.document ↔ r.body = s.body := by
  rw [document, document, hoptions, String.append_left_inj, String.append_right_inj]

/-- **Line ends and padding do not show.**  A text without returns gives the same request
whichever line ends it is written with and whichever blanks are put around it: the body is the
trimmed text, and the fingerprint and the document follow it. -/
theorem spelling_invisible {text written before after : String} (options : Options)
    (hreturn : '\r' ∉ text.toList) (hwritten : LineEnded text.toList written.toList)
    (hbefore : ∀ c ∈ before.toList, Text.isBlank c) (hafter : ∀ c ∈ after.toList, Text.isBlank c) :
    let plain : Request := ⟨text, options⟩
    let spelled : Request := ⟨before ++ written ++ after, options⟩
    plain.body = Text.trim text ∧ spelled.body = plain.body ∧ spelled.fingerprint = plain.fingerprint ∧
      spelled.document = plain.document := by
  intro plain spelled
  have hoptions : spelled.options = plain.options := rfl
  have hplain : plain.body = Text.trim text := by
    rw [body, normalize, joinLineEnds_eq_self_of_notMem hreturn, Text.trim]
  have hspelled : spelled.body = plain.body := by
    rw [hplain, body, String.toList_append, String.toList_append, normalize_append _ hbefore hafter,
      hwritten.normalize_eq hreturn, Text.trim]
  exact ⟨hplain, hspelled, fingerprint_of_body hoptions hspelled, (document_eq_iff_body hoptions).mpr hspelled⟩

/-- The return before the text pairs with the feed that begins it, and lines end both ways. -/
theorem spelling_invisible_return_before_feed :
    let plain : Request := ⟨"\na\n\nb", .plain⟩
    let spelled : Request := ⟨" \r" ++ "\na\r\n\nb" ++ "\u3000\r\n", .plain⟩
    '\r' ∉ "\na\n\nb".toList ∧ LineEnded "\na\n\nb".toList "\na\r\n\nb".toList ∧
      (∀ c ∈ " \r".toList, Text.isBlank c) ∧ (∀ c ∈ "\u3000\r\n".toList, Text.isBlank c) ∧
      plain.body = "a\n\nb" ∧ spelled.body = "a\n\nb" ∧ spelled.fingerprint = plain.fingerprint ∧
      spelled.document = plain.document := by
  intro plain spelled
  have hreturn : '\r' ∉ "\na\n\nb".toList := by decide
  have hwritten : LineEnded "\na\n\nb".toList "\na\r\n\nb".toList :=
    .feed (.char (by decide) (.returnFeed (.feed (.char (by decide) .nil))))
  have hbefore : ∀ c ∈ " \r".toList, Text.isBlank c := List.all_eq_true.mp (by decide)
  have hafter : ∀ c ∈ "\u3000\r\n".toList, Text.isBlank c := List.all_eq_true.mp (by decide)
  obtain ⟨hplain, hspelled, hfingerprint, hdocument⟩ :=
    spelling_invisible .plain hreturn hwritten hbefore hafter
  have htrim : Text.trim "\na\n\nb" = "a\n\nb" := by decide
  rw [htrim] at hplain
  exact ⟨hreturn, hwritten, hbefore, hafter, hplain, hspelled.trans hplain, hfingerprint, hdocument⟩

/-! ## Normal forms as sources -/

/-- The request with the normal form of its source as its source. -/
def resubmitted (r : Request) : Request := { r with source := r.body }

theorem body_resubmitted (r : Request) :
    r.resubmitted.body = .ofList (joinLineEnds (normalize r.source.toList)) := by
  have htrimmed : Text.Trimmed (normalize r.source.toList) := Text.trimmed_trimList _
  rw [body, resubmitted, body, String.toList_ofList, normalize_eq_joinLineEnds (normalize _),
    htrimmed.trimList_eq]

/-- A normal form stays as it is unless two returns stand before a feed inside the source. -/
theorem body_resubmitted_eq_iff (r : Request) :
    r.resubmitted.body = r.body ↔ ¬ '\r' :: returnFeed <:+: Text.trimList r.source.toList := by
  rw [body_resubmitted, body, String.ofList_inj, joinLineEnds_eq_self_iff, normalize_eq_joinLineEnds,
    returnFeed_infix_joinLineEnds_iff]

/-- **A normal form is one again unless a run of returns stands before a feed.**  Line ends are
joined in one pass, which makes a new line end of two characters out of such a run.  Then the body
changes, and with it the document and the bytes the fingerprint is taken of; otherwise nothing does. -/
theorem resubmitted_eq_iff (r : Request) :
    (r.resubmitted.body = r.body ↔ ¬ '\r' :: returnFeed <:+: Text.trimList r.source.toList) ∧
      (r.resubmitted.keyBytes = r.keyBytes ↔ r.resubmitted.body = r.body) ∧
      (r.resubmitted.document = r.document ↔ r.resubmitted.body = r.body) ∧
      (r.resubmitted.body = r.body → r.resubmitted.fingerprint = r.fingerprint) := by
  have hoptions : r.resubmitted.options = r.options := rfl
  exact ⟨body_resubmitted_eq_iff r, keyBytes_eq_iff_body hoptions, document_eq_iff_body hoptions,
    fingerprint_of_body hoptions⟩

/-- Two returns before a feed make a line end of two characters, which the next pass joins. -/
theorem resubmitted_loses_return :
    let r : Request := ⟨"a\r\r\nb", .plain⟩
    r.body = "a\r\nb" ∧ r.resubmitted.body = "a\nb" ∧ r.resubmitted.fingerprint ≠ r.fingerprint ∧
      r.resubmitted.document ≠ r.document := by
  intro r
  have hoptions : r.resubmitted.options = r.options := rfl
  have hbody : r.resubmitted.body ≠ r.body := by decide
  exact ⟨by decide, by decide, by decide +kernel, (document_eq_iff_body hoptions).not.mpr hbody⟩

end Request

end Galley
