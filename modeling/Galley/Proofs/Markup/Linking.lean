import Galley.Proofs.Markup.Sharing
import Mathlib.Data.List.Forall2

/-! # Links survive renaming

A quoted reference `"#pgf…"` goes where an id with the same suffix is declared.
Renaming rewrites every `pgf` on its own, by what follows it, and knows nothing of
references: it inserts the name into a reference whose suffix only starts like a
declared one, and inside suffixes that hold the mark.  Still it acts on references
as it acts on ids (`references_insertName`), and on texts in which the name does not
occur it can be undone (`insertName_inj`).  So the references of a renamed text go
to declared ids exactly where they did before (`links_survive`). -/
namespace Galley

/-! ## Fingerprints of requests -/

theorem Text.isSome_hexValue?_hexDigit : ∀ n < 16, (hexValue? (hexDigit n)).isSome := by decide

theorem Blake3.length_hash (bytes : List UInt8) : (hash bytes).length = 32 := by
  have hword : (fun w => (wordBytes w).length) = fun _ => 4 := rfl
  rw [hash, Node.digest, List.length_flatMap, hword, List.map_const', Vector.length_toList]
  rfl

/-- The fingerprint of a request is a text of hexadecimal digits. -/
theorem Request.isHex_fingerprint (r : Request) : r.fingerprint.IsHex := by
  rw [fingerprint, Text.hexList, Fingerprint.IsHex, String.toList_ofList]
  constructor
  · have hdigits : (fun b => (Text.hexByte b).length) = fun _ => 2 := rfl
    rw [List.length_flatMap, hdigits, List.map_const', Blake3.length_hash]
    rfl
  · intro c hc
    obtain ⟨b, -, hc⟩ := List.mem_flatMap.mp hc
    have hb := b.toNat_lt
    rw [Text.hexByte, List.mem_cons, List.mem_singleton] at hc
    rcases hc with rfl | rfl
    · exact Text.isSome_hexValue?_hexDigit _ (by omega)
    · exact Text.isSome_hexValue?_hexDigit _ (by omega)

namespace Markup

/-- What a quoted reference starts with. -/
abbrev anchor : List Char := '"' :: '#' :: mark

/-- What follows the mark in the quoted references of a text, in order: all that stands
between a `"#pgf` and the next quote, if there is one. -/
def references : List Char → List (List Char)
  | [] => []
  | '"' :: '#' :: 'p' :: 'g' :: 'f' :: value =>
    let later := references value
    if '"' ∈ value then value.takeWhile (· != '"') :: later else later
  | _ :: rest => references rest

variable {before : Option Char} {name s t w value more text : List Char} {suffixes : List (List Char)}

/-! ## The scan for references -/

theorem references_unclosed (hq : '"' ∉ value) : references (anchor ++ value) = references value :=
  if_neg hq

theorem takeWhile_append_quote (hq : '"' ∉ s) (more : List Char) :
    (s ++ '"' :: more).takeWhile (· != '"') = s := by
  simp [List.takeWhile_append_of_pos (bne_quote hq)]

theorem references_closed (hq : '"' ∉ s) :
    references (anchor ++ (s ++ '"' :: more)) = s :: references (s ++ '"' :: more) := by
  have hquote : '"' ∈ s ++ '"' :: more := List.mem_append_right _ List.mem_cons_self
  have hclosed : references (anchor ++ (s ++ '"' :: more)) =
      (s ++ '"' :: more).takeWhile (· != '"') :: references (s ++ '"' :: more) := if_pos hquote
  rw [hclosed, takeWhile_append_quote hq]

theorem references_cons {c : Char} (h : ¬ anchor <+: c :: text) :
    references (c :: text) = references text := by
  refine references.eq_3 c text fun value hc ht => h ?_
  subst hc ht
  exact ⟨value, rfl⟩

/-- The scan passes over what has no quote in it. -/
theorem references_append (hq : '"' ∉ w) : references (w ++ text) = references text := by
  induction w with
  | nil => rfl
  | cons c w ih =>
    rw [List.mem_cons, not_or] at hq
    rw [List.cons_append, references_cons, ih hq.2]
    exact fun h => hq.1 (List.cons_prefix_cons.mp h).1

@[elab_as_elim]
theorem anchor_induction {motive : List Char → Prop} (nil : motive [])
    (anchored : ∀ value, motive value → motive (anchor ++ value))
    (cons : ∀ c rest, ¬ anchor <+: c :: rest → motive rest → motive (c :: rest)) (text : List Char) :
    motive text := by
  induction text using references.induct with
  | case1 => exact nil
  | case2 value h ih => exact anchored value ih
  | case3 value h ih => exact anchored value ih
  | case4 c rest h ih =>
    refine cons c rest (fun hp => ?_) ih
    obtain ⟨v, hv⟩ := hp
    cases hv
    exact h v rfl rfl

/-- An anchor that stands behind something starts behind the whole anchor that a text starts
with. -/
theorem eq_anchor_append {front rest : List Char} (hfront : front ≠ [])
    (h : anchor ++ value = front ++ (anchor ++ rest)) : ∃ front', value = front' ++ (anchor ++ rest) := by
  rcases List.append_eq_append_iff.mp h with ⟨front', rfl, hvalue⟩ | ⟨w, hanchor, hrest⟩
  · exact ⟨front', hvalue⟩
  · cases w with
    | nil => exact ⟨[], hrest.symm⟩
    | cons c w =>
      -- what the two share starts with a quote, and in an anchor only the first character is one
      obtain ⟨rfl, -⟩ := List.cons.inj hrest
      cases front with
      | nil => exact absurd rfl hfront
      | cons d front =>
        have hmem : '"' ∈ '#' :: mark := (List.cons.inj hanchor).2 ▸ List.mem_append_right _ List.mem_cons_self
        exact absurd hmem (by decide)

/-- **The references of a text** are what stands in it between a `"#pgf` and the next quote. -/
theorem mem_references_iff :
    t ∈ references text ↔ '"' ∉ t ∧ ∃ front back, text = front ++ (anchor ++ (t ++ '"' :: back)) := by
  induction text using anchor_induction with
  | nil => simp [references]
  | anchored value ih =>
    -- a reference of the whole is one of what follows the anchor, unless it is the first
    have hlater : t ∈ references value ↔ '"' ∉ t ∧ ∃ front back, front ≠ [] ∧
        anchor ++ value = front ++ (anchor ++ (t ++ '"' :: back)) := by
      rw [ih]
      refine and_congr_right fun ht => ⟨?_, ?_⟩
      · rintro ⟨front, back, rfl⟩
        exact ⟨anchor ++ front, back, by simp, (List.append_assoc ..).symm⟩
      · rintro ⟨front, back, hfront, htext⟩
        obtain ⟨front', hvalue⟩ := eq_anchor_append hfront htext
        exact ⟨front', back, hvalue⟩
    by_cases hq : '"' ∈ value
    · obtain ⟨s, more, rfl, hs⟩ := List.eq_append_cons_of_mem hq
      rw [references_closed hs, List.mem_cons, hlater]
      constructor
      · rintro (rfl | ⟨ht, front, back, -, htext⟩)
        · exact ⟨hs, [], more, rfl⟩
        · exact ⟨ht, front, back, htext⟩
      · rintro ⟨ht, front, back, htext⟩
        by_cases hfront : front = []
        · subst hfront
          have hsame := congrArg (List.takeWhile (· != '"')) (List.append_cancel_left htext)
          rw [takeWhile_append_quote hs, takeWhile_append_quote ht] at hsame
          exact Or.inl hsame.symm
        · exact Or.inr ⟨ht, front, back, hfront, htext⟩
    · rw [references_unclosed hq, hlater]
      refine and_congr_right fun ht => exists_congr fun front => exists_congr fun back => ?_
      refine and_iff_right_of_imp fun htext => ?_
      rintro rfl
      exact hq (List.append_cancel_left htext ▸ List.mem_append_right _ List.mem_cons_self)
  | cons c rest hc ih =>
    rw [references_cons hc, ih]
    refine and_congr_right fun ht => ⟨?_, ?_⟩
    · rintro ⟨front, back, rfl⟩
      exact ⟨c :: front, back, rfl⟩
    · rintro ⟨front, back, htext⟩
      cases front with
      | nil => exact absurd ⟨_, htext.symm⟩ hc
      | cons d front => exact ⟨front, back, (List.cons.inj htext).2⟩

/-! ## References under renaming -/

/-- What becomes of what follows a mark. -/
def renamed (name : List Char) (suffixes : List (List Char)) (s : List Char) : List Char :=
  inserted name suffixes s ++ insertName name suffixes s

theorem mem_renamed {c : Char} (hc : c ∉ name) (h : c ∈ renamed name suffixes s) : c ∈ s := by
  rcases List.mem_append.mp h with h | h
  · exact absurd (inserted_subset h) hc
  · exact mem_insertName hc h

theorem anchor_prefix_insertName (h : anchor <+: insertName name suffixes text) : anchor <+: text :=
  cons_prefix_of_insertName (by decide) h fun _ h =>
    cons_prefix_of_insertName (by decide) h fun _ h => mark_prefix_insertName h

/-- Inserting makes no word in front of a text, unless it is one with a `p`. -/
theorem prefix_of_prefix_insertName (hw : 'p' ∉ w) (h : w <+: insertName name suffixes text) : w <+: text := by
  induction w generalizing text with
  | nil => exact List.nil_prefix
  | cons c w ih =>
    rw [List.mem_cons, not_or] at hw
    exact cons_prefix_of_insertName (Ne.symm hw.1) h fun rest hrest => ih hw.2 hrest

/-- **Inserting a name acts on references as it acts on ids.** -/
theorem references_insertName (hname : '"' ∉ name) (hS : ∀ s ∈ suffixes, s ≠ [] ∧ '"' ∉ s) :
    references (insertName name suffixes text) = (references text).map (renamed name suffixes) := by
  have hin (v : List Char) : references (renamed name suffixes v) = references (insertName name suffixes v) :=
    references_append fun h => hname (inserted_subset h)
  induction text using anchor_induction with
  | nil => rfl
  | anchored value ih =>
    change references (anchor ++ renamed name suffixes value) = _
    by_cases hq : '"' ∈ value
    · obtain ⟨s, more, rfl, hs⟩ := List.eq_append_cons_of_mem hq
      have hvalue : renamed name suffixes (s ++ '"' :: more) =
          renamed name suffixes s ++ '"' :: insertName name suffixes more := by
        rw [renamed, inserted_append_quote hS, insertName_append_quote hS, ← List.append_assoc, renamed]
      have hlater := hin (s ++ '"' :: more)
      rw [hvalue] at hlater
      rw [hvalue, references_closed fun h => hs (mem_renamed hname h), references_closed hs, hlater, ih, List.map_cons]
    · rw [references_unclosed fun h => hq (mem_renamed hname h), references_unclosed hq, hin, ih]
  | cons c rest hc ih =>
    by_cases h : mark <+: c :: rest
    · -- neither the mark nor the name holds a quote
      obtain ⟨v, hv⟩ := h
      cases hv
      have hrest : references (['g', 'f'] ++ insertName name suffixes v) =
          (references (['g', 'f'] ++ v)).map (renamed name suffixes) := ih
      rw [references_append (by decide), references_append (by decide)] at hrest
      calc references (mark ++ renamed name suffixes v)
        _ = references (renamed name suffixes v) := references_append (by decide)
        _ = references (insertName name suffixes v) := hin v
        _ = (references v).map (renamed name suffixes) := hrest
        _ = (references (mark ++ v)).map (renamed name suffixes) := by rw [references_append (by decide)]
    · have hkept : insertName name suffixes (c :: rest) = c :: insertName name suffixes rest := insertName_cons h
      rw [hkept, references_cons, references_cons hc, ih]
      exact fun hp => hc (anchor_prefix_insertName (hkept ▸ hp))

/-- Where there is no reference to a hyphen, an inserted name makes none. -/
theorem replaceHyphens_insertName (hname : '&' ∉ name) (h : ¬ hyphen <:+: text) :
    replaceHyphens (insertName name suffixes text) = insertName name suffixes text := by
  induction text using mark_induction with
  | nil => rfl
  | marked rest ih =>
    have hrest := ih fun hi => h (List.IsInfix.trans hi (List.suffix_append mark rest).isInfix)
    have hin : '&' ∉ inserted name suffixes rest := fun hi => hname (inserted_subset hi)
    rw [insertName_mark, replaceHyphens_append_of_not_mem (by decide), replaceHyphens_append_of_not_mem hin, hrest]
  | cons c rest hc ih =>
    have hrest := ih fun hi => h (List.infix_cons hi)
    have hkept : insertName name suffixes (c :: rest) = c :: insertName name suffixes rest := insertName_cons hc
    rw [hkept, replaceHyphens_cons, hrest]
    rw [← hkept]
    exact fun hp => h (prefix_of_prefix_insertName (by decide) hp).isInfix

/-! ## Undoing a renaming -/

/-- Two texts after a mark that are renamed alike, when the name is in neither: either the name
was inserted into both, or into none. -/
theorem insertName_eq_of_renamed_eq (hname : 'p' ∉ name) (hs : ¬ name <+: s) (ht : ¬ name <+: t)
    (h : renamed name suffixes s = renamed name suffixes t) :
    insertName name suffixes s = insertName name suffixes t := by
  -- inserted into one of them only, the name would be the front of the other
  have hfront {u v : List Char} (h : name ++ insertName name suffixes u = insertName name suffixes v) : name <+: v :=
    prefix_of_prefix_insertName hname ⟨_, h⟩
  simp only [renamed, inserted] at h
  split at h
  · split at h
    · exact List.append_cancel_left h
    · exact absurd (hfront h) ht
  · split at h
    · exact absurd (hfront h.symm) hs
    · exact h

/-- **Texts in which the name does not occur stay apart**, marks inside them or not. -/
theorem insertName_inj (hname : 'p' ∉ name) (hs : ¬ name <:+: s) (ht : ¬ name <:+: t)
    (h : insertName name suffixes s = insertName name suffixes t) : s = t := by
  induction s using mark_induction generalizing t with
  | nil =>
    have hempty : (insertName name suffixes t).isEmpty = t.isEmpty := insertName_isEmpty
    rw [← h] at hempty
    exact (List.isEmpty_iff.mp hempty.symm).symm
  | marked rest ih =>
    rw [insertName_mark] at h
    obtain ⟨v, rfl⟩ : mark <+: t := mark_prefix_insertName (h ▸ List.prefix_append _ _)
    have hrest : ¬ name <:+: rest := fun hi => hs (hi.trans (List.suffix_append mark rest).isInfix)
    have hv : ¬ name <:+: v := fun hi => ht (hi.trans (List.suffix_append mark v).isInfix)
    have hrenamed : renamed name suffixes rest = renamed name suffixes v := List.append_cancel_left h
    have hcut := insertName_eq_of_renamed_eq hname (mt List.IsPrefix.isInfix hrest) (mt List.IsPrefix.isInfix hv)
      hrenamed
    rw [ih hrest hv hcut]
  | cons c rest hc ih =>
    cases t using mark_induction with
    | nil =>
      rw [insertName_cons hc] at h
      cases h
    | marked v =>
      rw [insertName_mark] at h
      exact absurd (mark_prefix_insertName ⟨_, h.symm⟩) hc
    | cons d v hd =>
      rw [insertName_cons hc, insertName_cons hd] at h
      obtain ⟨rfl, htail⟩ := List.cons.inj h
      rw [ih (fun hi => hs (List.infix_cons hi)) (fun hi => ht (List.infix_cons hi)) htail]

theorem renamed_inj (hname : 'p' ∉ name) (hs : ¬ name <:+: s) (ht : ¬ name <:+: t)
    (h : renamed name suffixes s = renamed name suffixes t) : s = t :=
  insertName_inj hname hs ht
    (insertName_eq_of_renamed_eq hname (mt List.IsPrefix.isInfix hs) (mt List.IsPrefix.isInfix ht) h)

/-! ## Links -/

theorem infix_of_mem_declared (h : s ∈ declared before text) : s <:+: text := by
  induction text using text_induction generalizing before with
  | nil =>
    rw [declared] at h
    cases h
  | unclosed value hq =>
    rw [declared_unclosed hq] at h
    cases h
  | closed s' more hq ih =>
    have hlater (h : s ∈ declared (some '"') more) : s <:+: opening ++ (s' ++ '"' :: more) :=
      (ih h).trans ⟨opening ++ (s' ++ ['"']), [], by simp⟩
    rw [declared_closed hq] at h
    split at h
    · rcases List.mem_cons.mp h with rfl | h
      · exact ⟨opening, '"' :: more, by simp⟩
      · exact hlater h
    · exact hlater h
  | cons c rest hc ih =>
    rw [declared_cons hc] at h
    exact List.infix_cons (ih h)

theorem infix_of_mem_references (h : t ∈ references text) : t <:+: text := by
  obtain ⟨-, front, back, rfl⟩ := mem_references_iff.mp h
  exact ⟨front ++ anchor, '"' :: back, by simp⟩

/-- The ids of a renamed text, when there is no reference to a hyphen in it. -/
theorem declared_insertName (hname : IsName name) :
    declared none (insertName name (declared none text) text) =
      (declared none text).map (renamed name (declared none text)) :=
  (insertName_attributewise hname fun _ => suffix_of_mem_declared).declared_eq

/-- The target of a reference is declared exactly if the target that it has after renaming
is. -/
theorem renamed_mem_declared_iff (hp : 'p' ∉ name) (hname : ¬ name <:+: text) (ht : t <:+: text) :
    renamed name suffixes t ∈ (declared none text).map (renamed name suffixes) ↔ t ∈ declared none text := by
  refine ⟨fun h => ?_, List.mem_map_of_mem⟩
  obtain ⟨s, hs, heq⟩ := List.mem_map.mp h
  have hst := renamed_inj hp (fun hi => hname (hi.trans (infix_of_mem_declared hs))) (fun hi => hname (hi.trans ht)) heq
  exact hst ▸ hs

theorem not_mem_of_hex {c : Char} (h : ∀ c ∈ name, (Text.hexValue? c).isSome) (hc : Text.hexValue? c = none) :
    c ∉ name := fun hm => by simpa [hc] using h c hm

/-- **Links survive renaming.**  In a text in which neither the front of the fingerprint nor a
reference to a hyphen occurs, the quoted references become those of the markup of the rendering,
in order, and each of them goes to a declared id there exactly if it did so before.  Ids that
were distinct are distinct, those that were the same are the same. -/
theorem links_survive {f : Fingerprint} (hf : f.IsHex) {m : String} (hname : ¬ f.front <:+: m.toList)
    (hhyphen : ¬ hyphen <:+: m.toList) :
    ∃ m', namespaced? m f = some m' ∧
      List.Forall₂ (fun t t' => t' ∈ declared none m'.toList ↔ t ∈ declared none m.toList)
        (references m.toList) (references m'.toList) ∧
      ∀ i j : Nat, (declared none m'.toList)[i]? = (declared none m'.toList)[j]? ↔
        (declared none m.toList)[i]? = (declared none m.toList)[j]? := by
  have hhex := hf.hex_front
  have hp := not_mem_of_hex (c := 'p') hhex rfl
  have hrename : rename f.front m.toList = insertName f.front (declared none m.toList) m.toList :=
    replaceHyphens_insertName (not_mem_of_hex hhex rfl) hhyphen
  have hdeclared : declared none (insertName f.front (declared none m.toList) m.toList) = _ :=
    declared_insertName (isName_of_hex hhex)
  have hreferences : references (insertName f.front (declared none m.toList) m.toList) = _ :=
    references_insertName (not_mem_of_hex hhex rfl) fun _ => suffix_of_mem_declared
  refine ⟨.ofList (rename f.front m.toList), ?_, ?_, fun i j => ?_⟩
  · rw [namespaced?, hf.short?_eq, Option.map_some, String.toList_ofList]
  · rw [String.toList_ofList, hrename, hreferences, hdeclared, List.forall₂_map_right_iff, List.forall₂_same]
    exact fun t ht => renamed_mem_declared_iff hp hname (infix_of_mem_references ht)
  · rw [String.toList_ofList, hrename, hdeclared, List.getElem?_map, List.getElem?_map]
    refine ⟨fun h => ?_, fun h => by rw [h]⟩
    cases hi : (declared none m.toList)[i]? with
    | none =>
      rw [hi] at h
      exact (Option.map_eq_none_iff.mp h.symm).symm
    | some s =>
      rw [hi] at h
      obtain ⟨t, hj, hst⟩ := Option.map_eq_some_iff.mp h.symm
      have hfree {s : List Char} {i : Nat} (hi : (declared none m.toList)[i]? = some s) : ¬ f.front <:+: s :=
        fun h => hname (h.trans (infix_of_mem_declared (List.mem_of_getElem? hi)))
      rw [hj, renamed_inj hp (hfree hi) (hfree hj) hst.symm]

/-- The front of a fingerprint is in no text that has too few digits for it. -/
theorem not_infix_of_few {f : Fingerprint} (hf : f.IsHex)
    (h : text.countP (fun c => (Text.hexValue? c).isSome) < Fingerprint.shortLength) : ¬ f.front <:+: text := by
  intro hin
  have hall : f.front.countP (fun c => (Text.hexValue? c).isSome) = f.front.length :=
    List.countP_eq_length.mpr hf.hex_front
  have hle : f.front.countP (fun c => (Text.hexValue? c).isSome) ≤ _ := hin.sublist.countP_le
  rw [hall, hf.length_front] at hle
  exact absurd h (Nat.not_lt.mpr hle)

/-- The markup of a request, with an id that is the front of another one, a reference to the
longer of them, and one to an id that is not declared. -/
theorem links_survive_undeclared :
    let f := Request.fingerprint ⟨"x", .plain⟩
    let m := "<g id=\"pgfx\"/><g id=\"pgfxy\"/><a t=\"#pgfxy\"/><a t=\"#pgfxz\"/>"
    f.IsHex ∧ ¬ f.front <:+: m.toList ∧ ¬ hyphen <:+: m.toList ∧
      declared none m.toList = ["x".toList, "xy".toList] ∧ references m.toList = ["xy".toList, "xz".toList] ∧
      ∃ m', namespaced? m f = some m' ∧ ∃ t t', references m'.toList = [t, t'] ∧
        t ∈ declared none m'.toList ∧ t' ∉ declared none m'.toList := by
  intro f m
  have hf : f.IsHex := Request.isHex_fingerprint _
  have hname : ¬ f.front <:+: m.toList := not_infix_of_few hf (by decide +kernel)
  have hhyphen : ¬ hyphen <:+: m.toList := by decide +kernel
  have hdeclared : declared none m.toList = ["x".toList, "xy".toList] := by decide +kernel
  have hreferences : references m.toList = ["xy".toList, "xz".toList] := by decide +kernel
  obtain ⟨m', hm', hlinks, -⟩ := links_survive hf hname hhyphen
  rw [hreferences, hdeclared] at hlinks
  obtain ⟨t, _, ht, hrest, hreferences'⟩ := List.forall₂_cons_left_iff.mp hlinks
  obtain ⟨t', _, ht', hnil, rfl⟩ := List.forall₂_cons_left_iff.mp hrest
  obtain rfl := List.forall₂_nil_left_iff.mp hnil
  refine ⟨hf, hname, hhyphen, hdeclared, hreferences, m', hm', t, t', hreferences', ?_, ?_⟩
  · exact ht.mpr (by decide)
  · exact fun h => absurd (ht'.mp h) (by decide)

end Markup
end Galley
