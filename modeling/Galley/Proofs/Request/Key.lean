import Galley.Proofs.Pack.Reading
import Galley.Proofs.Text.Encoding
import Galley.Request.Fingerprint
import Mathlib.Data.List.Basic

/-! # The key bytes of a request

What is hashed for a request is its body, a zero byte, and its packed options.
The body may itself hold zeros, so the bytes do not show where it ends.  They
determine it nevertheless: if one body were longer than another with the same
key bytes, it would go on after a zero with the first byte of packed options,
and no text goes on like that (`bytes_zero_append_inj`).  The packed options
determine the options because packed values are self-delimiting.

Hence two requests have the same key bytes exactly when they have the same body
and the same options (`Request.keyBytes_eq_iff`). -/
namespace Galley

/-! ## Texts around a zero byte -/

/-- If the bytes of a text go on after those of another text and a zero, then
they go on with the bytes of a text. -/
theorem exists_text_of_bytes_append {a s : String} {w : List UInt8}
    (h : s.toUTF8.data.toList = a.toUTF8.data.toList ++ 0 :: w) :
    ∃ t : List Char, w = t.utf8Encode.data.toList := by
  have hsplit : (a.toList ++ ['\x00']).utf8Encode ++ w.toByteArray = s.toList.utf8Encode := by
    apply ByteArray.ext
    apply Array.toList_inj.mp
    rw [← bytes_eq_utf8Encode s, h]
    simp [List.utf8Encode_singleton, String.utf8EncodeChar]
  obtain ⟨t, ht⟩ := List.isPrefix_of_utf8Encode_append_eq_utf8Encode _ hsplit
  refine ⟨t, ?_⟩
  rw [bytes_eq_utf8Encode, bytes_eq_utf8Encode, ← ht] at h
  simpa [bytes_utf8Encode, String.utf8EncodeChar] using h.symm

/-- The first byte of a text, or the byte after it if the text is empty. -/
theorem isUTF8FirstByte_of_bytes_append {t : List Char} {u v : List UInt8} {b c : UInt8}
    (hc : c.IsUTF8FirstByte) (h : b :: u = t.utf8Encode.data.toList ++ c :: v) :
    b.IsUTF8FirstByte := by
  rw [bytes_utf8Encode] at h
  cases t with
  | nil =>
    rw [(List.cons.inj h).1]
    exact hc
  | cons d t =>
    have hfirst := UInt8.isUTF8FirstByte_getElem_zero_utf8EncodeChar (c := d)
    rw [List.flatMap_cons, List.append_assoc] at h
    cases henc : String.utf8EncodeChar d with
    | nil => exact absurd henc String.utf8EncodeChar_ne_nil
    | cons x xs =>
      simp only [henc, List.cons_append, List.getElem_cons_zero] at h hfirst
      rw [(List.cons.inj h).1]
      exact hfirst

/-- After a zero byte and before the next one, a text that is longer than another
would go on with a byte that no character starts with. -/
theorem eq_nil_of_bytes_append {a b : String} {x y : UInt8} {u v w : List UInt8}
    (hx : ¬ x.IsUTF8FirstByte) (hb : b.toUTF8.data.toList = a.toUTF8.data.toList ++ w)
    (hw : 0 :: x :: u = w ++ 0 :: y :: v) : w = [] := by
  cases w with
  | nil => rfl
  | cons z w =>
    exfalso
    obtain ⟨rfl, hrest⟩ := List.cons.inj hw
    obtain ⟨t, rfl⟩ := exists_text_of_bytes_append hb
    exact hx (isUTF8FirstByte_of_bytes_append (c := 0) (by decide) hrest)

/-- **A zero byte ends a text** when what comes next starts no character, although
texts may hold zero bytes. -/
theorem bytes_zero_append_inj {a b : String} {x y : UInt8} {u v : List UInt8}
    (hx : ¬ x.IsUTF8FirstByte) (hy : ¬ y.IsUTF8FirstByte)
    (h : a.toUTF8.data.toList ++ 0 :: x :: u = b.toUTF8.data.toList ++ 0 :: y :: v) :
    a = b ∧ x :: u = y :: v := by
  have hbytes : a.toUTF8.data.toList = b.toUTF8.data.toList := by
    rcases List.append_eq_append_iff.mp h with ⟨w, hb, hw⟩ | ⟨w, ha, hw⟩
    · rw [hb, eq_nil_of_bytes_append hx hb hw, List.append_nil]
    · rw [ha, eq_nil_of_bytes_append hy ha hw, List.append_nil]
  rw [hbytes] at h
  exact ⟨eq_of_bytes_eq hbytes, (List.cons.inj (List.append_cancel_left h)).2⟩

/-! ## Packed options -/

theorem Pack.optional_injective : Function.Injective Pack.optional := by
  intro o o' h
  cases o with
  | none => cases o' with
    | none => rfl
    | some s => cases h
  | some s => cases o' with
    | none => cases h
    | some s' => exact congrArg some (Pack.text.inj h)

theorem Package.toPack_injective : Function.Injective Package.toPack := by
  rintro ⟨name, options⟩ ⟨name', options'⟩ h
  simp only [Package.toPack, Pack.list.injEq, List.cons.injEq, Pack.text.injEq, and_true] at h
  obtain ⟨rfl, hoptions⟩ := h
  rw [Pack.optional_injective hoptions]

/-- Packing loses no option: which packages and libraries, their order, and which
texts are absent. -/
theorem Options.toPack_injective : Function.Injective Options.toPack := by
  rintro ⟨packages, libraries, preamble, picture, console⟩
    ⟨packages', libraries', preamble', picture', console'⟩ h
  simp only [Options.toPack, Pack.list.injEq, List.cons.injEq, Pack.flag.injEq, and_true] at h
  obtain ⟨hpackages, hlibraries, hpreamble, hpicture, rfl⟩ := h
  rw [(List.map_injective_iff.mpr Package.toPack_injective) hpackages,
    (List.map_injective_iff.mpr fun s t => Pack.text.inj) hlibraries,
    Pack.optional_injective hpreamble, Pack.optional_injective hpicture]

/-- Packed options start with the head of a list of five. -/
theorem Options.encode_toPack (o : Options) : ∃ rest, o.toPack.encode = 0x95 :: rest := ⟨_, rfl⟩

/-! ## Key bytes -/

/-- Equal key bytes come from equal bodies and equal options. -/
theorem Request.body_options_of_keyBytes {r s : Request} (hr : r.options.toPack.Fits)
    (hs : s.options.toPack.Fits) (h : r.keyBytes = s.keyBytes) :
    r.body = s.body ∧ r.options = s.options := by
  obtain ⟨u, hu⟩ := r.options.encode_toPack
  obtain ⟨v, hv⟩ := s.options.encode_toPack
  rw [Request.keyBytes, Request.keyBytes, hu, hv] at h
  obtain ⟨hbody, hpack⟩ := bytes_zero_append_inj (by decide) (by decide) h
  rw [← hu, ← hv] at hpack
  obtain ⟨hoptions, -⟩ := Pack.encode_append_inj _ _ hr hs (congrArg (· ++ []) hpack)
  exact ⟨hbody, Options.toPack_injective hoptions⟩

/-- **The key bytes separate requests.**  Requests whose option texts and lists
have sizes of 32 bits have the same key bytes exactly when their bodies and all
their options are the same. -/
theorem Request.keyBytes_eq_iff {r s : Request} (hr : r.options.toPack.Fits)
    (hs : s.options.toPack.Fits) :
    r.keyBytes = s.keyBytes ↔ r.body = s.body ∧ r.options = s.options := by
  constructor
  · exact Request.body_options_of_keyBytes hr hs
  · rintro ⟨hbody, hoptions⟩
    rw [Request.keyBytes, Request.keyBytes, hbody, hoptions]

/-- Two sources that differ in line ends and outer blanks, each with a zero in it,
have the same key bytes; a library more gives other ones. -/
theorem Request.keyBytes_of_zero_in_source :
    let options : Options := { Options.plain with
      packages := [⟨"xcolor", some "table"⟩], preamble := some "" }
    let r : Request := ⟨"a\x00\r\nb ", options⟩
    let s : Request := ⟨"a\x00\nb", options⟩
    let t : Request := ⟨"a\x00\nb", { options with libraries := [""] }⟩
    (r.options.toPack.Fits ∧ s.options.toPack.Fits ∧ t.options.toPack.Fits) ∧
      r.keyBytes = s.keyBytes ∧ r.keyBytes ≠ t.keyBytes := by
  intro options r s t
  have hr : r.options.toPack.Fits := by decide
  have hs : s.options.toPack.Fits := hr
  have ht : t.options.toPack.Fits := by decide
  refine ⟨⟨hr, hs, ht⟩, (Request.keyBytes_eq_iff hr hs).mpr ⟨by decide, rfl⟩, ?_⟩
  intro h
  exact absurd ((Request.keyBytes_eq_iff hr ht).mp h).2 (by decide)

/-! ## Fingerprints -/

namespace Text

theorem hexDigit_inj {a b : Fin 16} (h : hexDigit a = hexDigit b) : a = b := by
  revert a b
  decide

theorem hexByte_injective : Function.Injective hexByte := by
  intro a b h
  have ha : a.toNat / 16 < 16 := by have := a.toNat_lt; omega
  have hb : b.toNat / 16 < 16 := by have := b.toNat_lt; omega
  obtain ⟨hhigh, hlow⟩ := List.cons_eq_cons.mp h
  have hdiv := Fin.mk.inj (hexDigit_inj (a := ⟨a.toNat / 16, ha⟩) (b := ⟨b.toNat / 16, hb⟩) hhigh)
  have hmod := Fin.mk.inj (hexDigit_inj (a := ⟨a.toNat % 16, Nat.mod_lt _ (by decide)⟩)
    (b := ⟨b.toNat % 16, Nat.mod_lt _ (by decide)⟩) (List.cons_eq_cons.mp hlow).1)
  exact UInt8.toNat_inj.mp (by omega)

theorem hexList_injective : Function.Injective hexList := by
  intro as bs h
  have hdigits : as.flatMap hexByte = bs.flatMap hexByte := String.ofList_injective h
  induction as generalizing bs with
  | nil =>
    cases bs with
    | nil => rfl
    | cons b bs => cases hdigits
  | cons a as ih =>
    cases bs with
    | nil => cases hdigits
    | cons b bs =>
      rw [List.flatMap_cons, List.flatMap_cons] at hdigits
      obtain ⟨hfirst, hrest⟩ := List.append_inj hdigits ((length_hexByte a).trans (length_hexByte b).symm)
      rw [hexByte_injective hfirst, ih (congrArg String.ofList hrest) hrest]

end Text

/-- Where the hash does not collide, equal fingerprints come from equal bodies and equal
options. -/
theorem Request.body_options_of_fingerprint {r s : Request} (hr : r.options.toPack.Fits)
    (hs : s.options.toPack.Fits)
    (hfree : Blake3.hash r.keyBytes = Blake3.hash s.keyBytes → r.keyBytes = s.keyBytes)
    (h : r.fingerprint = s.fingerprint) : r.body = s.body ∧ r.options = s.options :=
  Request.body_options_of_keyBytes hr hs (hfree (Text.hexList_injective (Fingerprint.mk.inj h)))

end Galley
