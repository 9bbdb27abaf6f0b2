import Galley.Text.Latin1
import Mathlib.Data.List.Basic

/-! # Texts in bytes

A text has its bytes in UTF-8, and they determine it (`eq_of_bytes_eq`).  A reader that takes
bytes for ISO-8859-1 sees each character of such a text as itself if it is in ASCII, and as two or
more characters beyond ASCII if it is not (`Text.misread`).  So it sees the text itself exactly if
all of it is in ASCII (`Text.misread_eq_self_iff`), and it sees an ASCII character where there is
one (`Text.prefix_of_misread`, `Text.head?_misread`, `Text.getLast?_misread`). -/
namespace Galley

/-! ## UTF-8 -/

theorem bytes_eq_utf8Encode (s : String) : s.toUTF8.data.toList = s.toList.utf8Encode.data.toList := by
  rw [String.toUTF8_eq_toByteArray, String.utf8Encode_toList]

theorem bytes_utf8Encode (cs : List Char) :
    cs.utf8Encode.data.toList = cs.flatMap String.utf8EncodeChar := by
  simp [List.utf8Encode, List.data_toByteArray]

theorem eq_of_bytes_eq {a b : String} (h : a.toUTF8.data.toList = b.toUTF8.data.toList) : a = b :=
  String.toByteArray_inj.mp (ByteArray.ext (Array.toList_inj.mp h))

namespace Text

/-! ## ISO-8859-1 -/

/-- The bytes of a text in ISO-8859-1. -/
def codes (cs : List Char) : List UInt8 := cs.map fun c => UInt8.ofNat c.toNat

/-- The character is in ISO-8859-1. -/
def isLatin1 (c : Char) : Bool := c.toNat < 256

theorem latin1Char_ofNat {c : Char} (h : isLatin1 c) : latin1Char (.ofNat c.toNat) = c := by
  rw [latin1Char, UInt8.toNat_ofNat_of_lt' (of_decide_eq_true h), Char.ofNat_toNat]

theorem latin1List_codes {cs : List Char} (h : ∀ c ∈ cs, isLatin1 c) : latin1List (codes cs) = cs := by
  rw [latin1List, codes, List.map_map, List.map_congr_left (g := id), List.map_id]
  exact fun c hc => latin1Char_ofNat (h c hc)

theorem toNat_latin1Char (b : UInt8) : (latin1Char b).toNat = b.toNat := by
  have hvalid : b.toNat.isValidChar := .inl (by have := b.toNat_lt; omega)
  rw [latin1Char, Char.ofNat, dif_pos hvalid]
  exact UInt32.toNat_ofNatLT ..

theorem codes_latin1List (bs : List UInt8) : codes (latin1List bs) = bs := by
  rw [codes, latin1List, List.map_map, List.map_congr_left (g := id), List.map_id]
  intro b _
  rw [Function.comp_apply, toNat_latin1Char, UInt8.ofNat_toNat, id]

theorem latin1List_eq_iff {bs : List UInt8} {cs : List Char} (h : ∀ c ∈ cs, isLatin1 c) :
    latin1List bs = cs ↔ bs = codes cs := by
  constructor
  · rintro rfl
    exact (codes_latin1List bs).symm
  · rintro rfl
    exact latin1List_codes h

theorem latin1List_append (bs bs' : List UInt8) : latin1List (bs ++ bs') = latin1List bs ++ latin1List bs' :=
  List.map_append

theorem latin1List_replicate (k : Nat) (b : UInt8) :
    latin1List (List.replicate k b) = List.replicate k (latin1Char b) :=
  List.map_replicate

theorem mem_of_latin1Char_mem {b : UInt8} {bs : List UInt8} (h : latin1Char b ∈ latin1List bs) : b ∈ bs := by
  obtain ⟨b', hmem, heq⟩ := List.mem_map.mp h
  have hb : b = b' := UInt8.toNat_inj.mp (by rw [← toNat_latin1Char, ← toNat_latin1Char, heq])
  exact hb ▸ hmem

/-! ## One for the other -/

/-- The character is in ASCII. -/
def isAscii (c : Char) : Bool := c.toNat < 128

theorem isLatin1_of_ascii {c : Char} (h : isAscii c) : isLatin1 c := by
  simp only [isAscii, isLatin1, decide_eq_true_eq] at h ⊢
  omega

/-- What a character in UTF-8 is in ISO-8859-1. -/
def misreadChar (c : Char) : List Char := latin1List (String.utf8EncodeChar c)

/-- What a text in UTF-8 is in ISO-8859-1. -/
def misread (cs : List Char) : List Char := cs.flatMap misreadChar

theorem latin1List_bytes (s : String) : latin1List s.toUTF8.data.toList = misread s.toList := by
  rw [bytes_eq_utf8Encode, bytes_utf8Encode, latin1List, List.map_flatMap]
  rfl

theorem misreadChar_of_ascii {c : Char} (h : isAscii c) : misreadChar c = [c] := by
  have hsmall : c.val.toNat ≤ 127 := Nat.le_of_lt_succ (of_decide_eq_true h)
  have henc : String.utf8EncodeChar c = [.ofNat c.toNat] := by
    rw [String.utf8EncodeChar, if_pos hsmall]
    rfl
  rw [misreadChar, henc, latin1List, List.map_singleton, latin1Char_ofNat (isLatin1_of_ascii h)]

theorem length_misreadChar (c : Char) : (misreadChar c).length = c.utf8Size := by
  rw [misreadChar, length_latin1List, String.length_utf8EncodeChar]

theorem length_misreadChar_eq_one {c : Char} (h : (misreadChar c).length = 1) : isAscii c := by
  rw [length_misreadChar, Char.utf8Size_eq_one_iff] at h
  have hval : c.val.toNat ≤ 127 := UInt32.le_iff_toNat_le.mp h
  have htoNat : c.toNat = c.val.toNat := rfl
  simp only [isAscii, decide_eq_true_eq]
  omega

theorem misreadChar_ne_nil (c : Char) : misreadChar c ≠ [] := by
  simp [misreadChar, latin1List, String.utf8EncodeChar_ne_nil]

theorem le_toNat_ofNat {k n : Nat} (hlow : k ≤ n) (hhigh : n < 256) : k ≤ (UInt8.ofNat n).toNat := by
  rwa [UInt8.toNat_ofNat_of_lt' hhigh]

/-- A character that is not in ASCII is taken for characters that are not. -/
theorem not_ascii_of_mem_misreadChar {c d : Char} (hc : ¬ isAscii c) (hd : d ∈ misreadChar c) : ¬ isAscii d := by
  obtain ⟨b, hb, rfl⟩ := List.mem_map.mp hd
  have hlarge : ¬ c.val.toNat ≤ 127 := by
    have hnot : ¬ c.val.toNat < 128 := by simpa [isAscii] using hc
    omega
  -- all bytes of a longer sequence have their highest bit set
  have hbyte : 128 ≤ b.toNat := by
    simp only [String.utf8EncodeChar, if_neg hlarge] at hb
    split at hb
    · simp only [List.mem_cons, List.not_mem_nil, or_false] at hb
      rcases hb with rfl | rfl <;> exact le_toNat_ofNat (by omega) (by omega)
    · split at hb
      · simp only [List.mem_cons, List.not_mem_nil, or_false] at hb
        rcases hb with rfl | rfl | rfl <;> exact le_toNat_ofNat (by omega) (by omega)
      · simp only [List.mem_cons, List.not_mem_nil, or_false] at hb
        rcases hb with rfl | rfl | rfl | rfl <;> exact le_toNat_ofNat (by omega) (by omega)
  simp only [isAscii, toNat_latin1Char, decide_eq_true_eq]
  omega

theorem misread_cons (c : Char) (cs : List Char) : misread (c :: cs) = misreadChar c ++ misread cs :=
  List.flatMap_cons

theorem misread_append (cs cs' : List Char) : misread (cs ++ cs') = misread cs ++ misread cs' := List.flatMap_append

theorem length_le_length_misread (cs : List Char) : cs.length ≤ (misread cs).length := by
  induction cs with
  | nil => exact Nat.le_refl 0
  | cons c cs ih =>
    have hc := List.length_pos_of_ne_nil (misreadChar_ne_nil c)
    rw [misread_cons, List.length_append, List.length_cons]
    omega

/-- **A text in UTF-8 is the same text in ISO-8859-1 exactly if it is in ASCII.** -/
theorem misread_eq_self_iff {cs : List Char} : misread cs = cs ↔ ∀ c ∈ cs, isAscii c := by
  induction cs with
  | nil => simp [misread]
  | cons c cs ih =>
    rw [misread_cons, List.forall_mem_cons, ← ih]
    constructor
    · intro h
      have hlength := congrArg List.length h
      have hc := List.length_pos_of_ne_nil (misreadChar_ne_nil c)
      have hcs := length_le_length_misread cs
      rw [List.length_append, List.length_cons] at hlength
      have hascii := length_misreadChar_eq_one (show (misreadChar c).length = 1 by omega)
      rw [misreadChar_of_ascii hascii, List.singleton_append] at h
      exact ⟨hascii, (List.cons.inj h).2⟩
    · rintro ⟨hascii, hrest⟩
      rw [misreadChar_of_ascii hascii, hrest, List.singleton_append]

/-- An ASCII character is seen where there is one. -/
theorem mem_misreadChar_of_ascii {c d : Char} (hd : d ∈ misreadChar c) (hascii : isAscii d) : d = c := by
  by_cases hc : isAscii c
  · rw [misreadChar_of_ascii hc] at hd
    exact List.mem_singleton.mp hd
  · exact absurd hascii (not_ascii_of_mem_misreadChar hc hd)

theorem head?_misread {cs : List Char} {c : Char} (h : c ∈ (misread cs).head?) (hascii : isAscii c) :
    c ∈ cs.head? := by
  cases cs with
  | nil => cases h
  | cons c' cs =>
    rw [misread_cons, List.head?_append_of_ne_nil _ (misreadChar_ne_nil c')] at h
    rw [mem_misreadChar_of_ascii (List.mem_of_mem_head? h) hascii]
    rfl

theorem getLast?_misread {cs : List Char} {c : Char} (h : c ∈ (misread cs).getLast?) (hascii : isAscii c) :
    c ∈ cs.getLast? := by
  rcases List.eq_nil_or_concat cs with rfl | ⟨cs, c', rfl⟩
  · cases h
  · have hlast : misread [c'] = misreadChar c' := List.flatMap_singleton ..
    rw [List.concat_eq_append, misread_append, hlast, List.getLast?_append_of_ne_nil _ (misreadChar_ne_nil c')] at h
    rw [mem_misreadChar_of_ascii (List.mem_of_mem_getLast? h) hascii, List.concat_eq_append, List.getLast?_concat]
    rfl

/-- An ASCII text is seen in front where there is one. -/
theorem prefix_of_misread {front cs : List Char} (hascii : ∀ c ∈ front, isAscii c) (h : front <+: misread cs) :
    front <+: cs := by
  induction front generalizing cs with
  | nil => exact List.nil_prefix
  | cons c front ih =>
    obtain ⟨hc, hfront⟩ := List.forall_mem_cons.mp hascii
    have hhead : c ∈ cs.head? := by
      obtain ⟨rest, hrest⟩ := h
      exact head?_misread (hrest ▸ rfl) hc
    obtain ⟨cs, rfl⟩ := List.head?_eq_some_iff.mp hhead
    rw [misread_cons, misreadChar_of_ascii hc, List.singleton_append, List.cons_prefix_cons] at h
    exact List.cons_prefix_cons.mpr ⟨rfl, ih hfront h.2⟩

/-- An ASCII text is seen only where it is. -/
theorem eq_of_misread_eq {ascii cs : List Char} (hascii : ∀ c ∈ ascii, isAscii c) (h : misread cs = ascii) :
    cs = ascii := by
  have hfront : ascii <+: cs := prefix_of_misread hascii (h ▸ List.prefix_rfl)
  have hlength : cs.length ≤ ascii.length := h ▸ length_le_length_misread cs
  exact (hfront.eq_of_length_le hlength).symm

/-- The bytes of an ASCII text in ISO-8859-1 are in UTF-8 those of no other text. -/
theorem eq_of_bytes_eq_codes {s ascii : String} (hascii : ∀ c ∈ ascii.toList, isAscii c)
    (h : s.toUTF8.data.toList = codes ascii.toList) : s = ascii := by
  rw [← latin1List_eq_iff fun c hc => isLatin1_of_ascii (hascii c hc), latin1List_bytes] at h
  exact String.toList_inj.mp (eq_of_misread_eq hascii h)

end Text
end Galley
