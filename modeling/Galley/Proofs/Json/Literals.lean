import Galley.Json.Parser
import Galley.Json.Record
import Galley.Proofs.Text.Encoding

/-! # Literals and the texts they stand for

Between its quotes a literal has bytes of three kinds: such that stand for themselves, escapes
of two bytes, and escapes of four digits (`IsBody`).  Where such bytes end, at the next quote, the
parser ends them (`stringBody_append`).

A text is written so, whatever its characters are: quotes, backslashes, control characters and
all that is not in ASCII (`isBody_ofString`), and reading the literal gives the text
(`text?_ofString`). -/
namespace Galley.Literal
open Json Text

/-- The bytes that may stand between the quotes of a literal. -/
inductive IsBody : List UInt8 → Prop where
  | nil : IsBody []
  | plain {b : UInt8} {body : List UInt8} (hcontrol : ¬ b < 0x20) (hquote : b ≠ 0x22) (hescape : b ≠ 0x5C)
      (hbody : IsBody body) : IsBody (b :: body)
  | short {b : UInt8} {body : List UInt8} (hshort : (shortEscape? b).isSome) (hbody : IsBody body) :
      IsBody (0x5C :: b :: body)
  | unicode {a b c d : UInt8} {body : List UInt8} (ha : isHexDigit a) (hb : isHexDigit b) (hc : isHexDigit c)
      (hd : isHexDigit d) (hbody : IsBody body) : IsBody (0x5C :: 0x75 :: a :: b :: c :: d :: body)

theorem IsBody.append {body more : List UInt8} (h : IsBody body) (h' : IsBody more) : IsBody (body ++ more) := by
  induction h with
  | nil => exact h'
  | plain hcontrol hquote hescape _ ih => exact .plain hcontrol hquote hescape ih
  | short hshort _ ih => exact .short hshort ih
  | unicode ha hb hc hd _ ih => exact .unicode ha hb hc hd ih

theorem shortEscape?_isSome_iff (b : UInt8) : (shortEscape? b).isSome ↔
    (b == 0x22 || b == 0x5C || b == 0x2F || b == 0x62 || b == 0x66 || b == 0x6E || b == 0x72 || b == 0x74) := by
  simp only [shortEscape?]
  grind

theorem stringBody_plain {b : UInt8} (hcontrol : ¬ b < 0x20) (hquote : b ≠ 0x22) (hescape : b ≠ 0x5C)
    (rest : List UInt8) : stringBody (b :: rest) = (stringBody rest).map fun (body, rest) => (b :: body, rest) := by
  rw [stringBody]
  · simp [hcontrol, hescape]
  all_goals simp_all

theorem stringBody_short {b : UInt8} (hshort : (shortEscape? b).isSome) (rest : List UInt8) :
    stringBody (0x5C :: b :: rest) = (stringBody rest).map fun (body, rest) => (0x5C :: b :: body, rest) := by
  rw [shortEscape?_isSome_iff] at hshort
  rw [stringBody, if_pos hshort]
  -- an escape of four digits starts otherwise
  rintro _ _ _ _ _ rfl _
  exact absurd hshort (by decide)

theorem stringBody_unicode {a b c d : UInt8} (ha : isHexDigit a) (hb : isHexDigit b) (hc : isHexDigit c)
    (hd : isHexDigit d) (rest : List UInt8) : stringBody (0x5C :: 0x75 :: a :: b :: c :: d :: rest) =
      (stringBody rest).map fun (body, rest) => (0x5C :: 0x75 :: a :: b :: c :: d :: body, rest) := by
  rw [stringBody]
  simp [ha, hb, hc, hd]

/-- **A body ends at its quote.** -/
theorem stringBody_append {body : List UInt8} (h : IsBody body) (rest : List UInt8) :
    stringBody (body ++ 0x22 :: rest) = some (body, rest) := by
  induction h with
  | nil => rw [List.nil_append, stringBody]
  | plain hcontrol hquote hescape _ ih =>
    rw [List.cons_append, stringBody_plain hcontrol hquote hescape, ih, Option.map_some]
  | short hshort _ ih =>
    rw [List.cons_append, List.cons_append, stringBody_short hshort, ih, Option.map_some]
  | unicode ha hb hc hd _ ih =>
    simp only [List.cons_append]
    rw [stringBody_unicode ha hb hc hd, ih, Option.map_some]

/-! ## Texts as literals -/

theorem resolve_plain {b : UInt8} (h : b ≠ 0x5C) (rest : List UInt8) :
    resolve (b :: rest) = (resolve rest).map (b :: ·) := by
  rw [resolve]
  · cases resolve rest <;> rfl
  all_goals simp_all

theorem resolve_of_no_escape {bytes : List UInt8} (h : 0x5C ∉ bytes) (rest : List UInt8) :
    resolve (bytes ++ rest) = (resolve rest).map (bytes ++ ·) := by
  induction bytes with
  | nil => cases hrest : resolve rest <;> simp [hrest]
  | cons b bytes ih =>
    rw [List.mem_cons, not_or] at h
    rw [List.cons_append, resolve_plain (Ne.symm h.1), ih h.2, Option.map_map]
    rfl

theorem resolve_short {b byte : UInt8} (h : shortEscape? b = some byte) (rest : List UInt8) :
    resolve (0x5C :: b :: rest) = (resolve rest).map (byte :: ·) := by
  rw [resolve, h]
  · cases resolve rest <;> rfl
  · rintro _ _ _ _ _ rfl _
    exact absurd h (by simp [shortEscape?])

theorem resolve_unicode {a b c d : UInt8} {n : Nat} (h : unit? a b c d = some n) (hsmall : n < 0xD800)
    (rest : List UInt8) : resolve (0x5C :: 0x75 :: a :: b :: c :: d :: rest) =
      (resolve rest).map (String.utf8EncodeChar (.ofNat n) ++ ·) := by
  rw [resolve, h]
  have hlow : ¬ (0xDC00 ≤ n ∧ n ≤ 0xDFFF) := by omega
  have hhigh : ¬ (0xD800 ≤ n ∧ n ≤ 0xDBFF) := by omega
  simp only [Option.bind_eq_bind, Option.bind_some, Bool.and_eq_true, decide_eq_true_eq, hlow, hhigh, if_false]
  cases resolve rest <;> rfl

/-- The digits of a control character. -/
theorem unit?_control : ∀ n < 0x20,
    unit? 0x30 0x30 (ascii (hexDigit (n / 16))) (ascii (hexDigit (n % 16))) = some n := by
  decide

theorem isHexDigit_control : ∀ n < 0x20,
    isHexDigit (ascii (hexDigit (n / 16))) ∧ isHexDigit (ascii (hexDigit (n % 16))) := by
  decide

/-- A byte in ASCII stands in UTF-8 for itself only. -/
theorem eq_of_mem_utf8EncodeChar {c : Char} {b : UInt8} (hb : b ∈ String.utf8EncodeChar c) (hascii : b.toNat < 128) :
    c.toNat = b.toNat := by
  have hmem : latin1Char b ∈ misreadChar c := List.mem_map_of_mem hb
  have hchar : isAscii (latin1Char b) := decide_eq_true (by rwa [toNat_latin1Char])
  rw [← mem_misreadChar_of_ascii hmem hchar, toNat_latin1Char]

/-- How a character is written: escaped by two bytes, escaped by its digits, or as it is. -/
theorem escapeChar_cases (c : Char) :
    (∃ b byte, shortEscape? b = some byte ∧ escapeChar c = [0x5C, b] ∧ String.utf8EncodeChar c = [byte]) ∨
    (∃ high low, isHexDigit high ∧ isHexDigit low ∧ unit? 0x30 0x30 high low = some c.toNat ∧ c.toNat < 0x20 ∧
      escapeChar c = [0x5C, 0x75, 0x30, 0x30, high, low]) ∨
    (¬ c.toNat < 0x20 ∧ c ≠ '"' ∧ c ≠ '\\' ∧ escapeChar c = String.utf8EncodeChar c) := by
  by_cases hnamed : c ∈ ['"', '\\', '\n', '\r', '\t', '\x08', '\x0c']
  · left
    simp only [List.mem_cons, List.not_mem_nil, or_false] at hnamed
    rcases hnamed with rfl | rfl | rfl | rfl | rfl | rfl | rfl <;> exact ⟨_, _, rfl, rfl, by decide⟩
  · right
    simp only [List.mem_cons, List.not_mem_nil, or_false, not_or] at hnamed
    simp only [escapeChar, beq_iff_eq, hnamed, if_false]
    by_cases hcontrol : c.toNat < 0x20
    · left
      rw [if_pos hcontrol]
      have hbyte : (UInt8.ofNat c.toNat).toNat = c.toNat := UInt8.toNat_ofNat_of_lt' (show c.toNat < 256 by omega)
      obtain ⟨hhigh, hlow⟩ := isHexDigit_control c.toNat hcontrol
      refine ⟨_, _, hhigh, hlow, unit?_control c.toNat hcontrol, hcontrol, ?_⟩
      rw [hexByte, hbyte]
      rfl
    · right
      rw [if_neg hcontrol]
      exact ⟨hcontrol, hnamed.1, hnamed.2.1, rfl⟩

/-- Bytes that all stand for themselves. -/
theorem isBody_of_plain {bytes : List UInt8} (h : ∀ b ∈ bytes, ¬ b < 0x20 ∧ b ≠ 0x22 ∧ b ≠ 0x5C) : IsBody bytes := by
  induction bytes with
  | nil => exact .nil
  | cons b bytes ih =>
    obtain ⟨⟨hcontrol, hquote, hescape⟩, hrest⟩ := List.forall_mem_cons.mp h
    exact .plain hcontrol hquote hescape (ih hrest)

theorem isBody_escapeChar (c : Char) : IsBody (escapeChar c) := by
  rcases escapeChar_cases c with
    ⟨b, byte, hb, hc, -⟩ | ⟨high, low, hhigh, hlow, -, -, hc⟩ | ⟨hcontrol, hquote, hescape, hc⟩
  · rw [hc]
    exact .short (Option.isSome_of_eq_some hb) .nil
  · rw [hc]
    exact .unicode (by decide) (by decide) hhigh hlow .nil
  · rw [hc]
    refine isBody_of_plain fun b hb => ⟨fun hlow => hcontrol ?_, ?_, ?_⟩
    · have hsmall : b.toNat < 0x20 := UInt8.lt_iff_toNat_lt.mp hlow
      rw [eq_of_mem_utf8EncodeChar hb (by omega)]
      exact hsmall
    · rintro rfl
      exact hquote (Char.toNat_inj.mp (eq_of_mem_utf8EncodeChar hb (by decide)))
    · rintro rfl
      exact hescape (Char.toNat_inj.mp (eq_of_mem_utf8EncodeChar hb (by decide)))

theorem resolve_escapeChar (c : Char) (rest : List UInt8) :
    resolve (escapeChar c ++ rest) = (resolve rest).map (String.utf8EncodeChar c ++ ·) := by
  rcases escapeChar_cases c with ⟨b, byte, hb, hc, hbyte⟩ | ⟨high, low, -, -, hunit, hsmall, hc⟩ | ⟨-, -, hescape, hc⟩
  · rw [hc, hbyte]
    exact resolve_short hb rest
  · rw [hc]
    simp only [List.cons_append, List.nil_append]
    rw [resolve_unicode hunit (by omega), Char.ofNat_toNat]
  · rw [hc]
    refine resolve_of_no_escape (fun hmem => hescape ?_) rest
    exact Char.toNat_inj.mp (eq_of_mem_utf8EncodeChar hmem (by decide))

theorem isBody_ofString (s : String) : IsBody (ofString s).body := by
  rw [ofString]
  generalize s.toList = cs
  induction cs with
  | nil => exact .nil
  | cons c cs ih =>
    rw [List.flatMap_cons]
    exact (isBody_escapeChar c).append ih

theorem resolve_ofString (s : String) : resolve (ofString s).body = some s.toUTF8.data.toList := by
  rw [bytes_eq_utf8Encode, bytes_utf8Encode, ofString]
  generalize s.toList = cs
  induction cs with
  | nil => rfl
  | cons c cs ih => rw [List.flatMap_cons, List.flatMap_cons, resolve_escapeChar, ih, Option.map_some]

/-- **A text is what its literal stands for.** -/
theorem text?_ofString (s : String) : (ofString s).text? = some s := by
  have hvalid : s.toUTF8.IsValidUTF8 := s.isValidUTF8
  have hbytes : s.toUTF8.data.toList.toByteArray = s.toUTF8 := by
    refine ByteArray.ext ?_
    rw [List.data_toByteArray, Array.toArray_toList]
  rw [text?, resolve_ofString]
  show utf8? s.toUTF8.data.toList.toByteArray = some s
  rw [hbytes, utf8?, String.fromUTF8?, dif_pos hvalid]
  rfl

end Galley.Literal
