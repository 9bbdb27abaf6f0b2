import Galley.Proofs.Markup.Renaming

/-! # Renderings that share a document

The front of a fingerprint is a word of hexadecimal digits, so it can be inserted
without disturbing the scan for ids (`isName_of_hex`), and the ids of a rendering
start with it.  Two renderings under fingerprints that differ at the front
therefore share no id (`namespaced_disjoint`). -/
namespace Galley

/-! ## Cutting a text -/

namespace Text

/-- A cut after the bytes of a front of a text gives that front. -/
theorem bytePrefix?_of_append (cs rest : List Char) :
    bytePrefix? cs.utf8Encode.size (.ofList (cs ++ rest)) = some (.ofList cs) := by
  have hbytes : (String.ofList (cs ++ rest)).toUTF8.extract 0 cs.utf8Encode.size = cs.utf8Encode := by
    rw [String.toUTF8_eq_toByteArray, String.toByteArray_ofList, List.utf8Encode_append]
    exact ByteArray.extract_append_eq_left rfl
  have hvalid : cs.utf8Encode.IsValidUTF8 := ⟨cs, rfl⟩
  rw [bytePrefix?, utf8?, hbytes, String.fromUTF8?, dif_pos hvalid]
  rfl

theorem size_utf8Encode_of_ascii {cs : List Char} (h : ∀ c ∈ cs, c.toNat < 128) :
    cs.utf8Encode.size = cs.length := by
  induction cs with
  | nil => rfl
  | cons c cs ih =>
    have hc : c.utf8Size = 1 :=
      Char.utf8Size_eq_one_iff.mpr (Nat.le_of_lt_succ (h c List.mem_cons_self))
    have hcs := ih fun d hd => h d (List.mem_cons_of_mem c hd)
    rw [List.utf8Encode_cons, ByteArray.size_append, hcs, List.length_cons, List.utf8Encode_singleton,
      List.size_toByteArray, String.length_utf8EncodeChar, hc, Nat.add_comm]

theorem toNat_lt_of_hex {c : Char} (h : (hexValue? c).isSome) : c.toNat < 103 := by
  simp only [hexValue?] at h
  grind

end Text

/-! ## Fingerprints of hexadecimal digits -/

namespace Fingerprint

/-- A text of 64 hexadecimal digits. -/
def IsHex (f : Fingerprint) : Prop :=
  f.text.toList.length = 64 ∧ ∀ c ∈ f.text.toList, (Text.hexValue? c).isSome

instance (f : Fingerprint) : Decidable f.IsHex := inferInstanceAs (Decidable (_ ∧ _))

/-- The first digits of a fingerprint. -/
def front (f : Fingerprint) : List Char := f.text.toList.take shortLength

variable {f : Fingerprint}

theorem isHex_replicate {c : Char} (h : (Text.hexValue? c).isSome) : IsHex ⟨.ofList (List.replicate 64 c)⟩ := by
  rw [IsHex, String.toList_ofList]
  exact ⟨List.length_replicate, fun d hd => List.eq_of_mem_replicate hd ▸ h⟩

theorem IsHex.length_front (h : f.IsHex) : f.front.length = shortLength := by
  rw [front, List.length_take, h.1]
  rfl

theorem IsHex.hex_front (h : f.IsHex) : ∀ c ∈ f.front, (Text.hexValue? c).isSome :=
  fun c hc => h.2 c (List.mem_of_mem_take hc)

/-- Hexadecimal digits take one byte each, so the cut falls between two of them. -/
theorem IsHex.short?_eq (h : f.IsHex) : f.short? = some (.ofList f.front) := by
  have hsize : f.front.utf8Encode.size = shortLength := by
    rw [Text.size_utf8Encode_of_ascii, h.length_front]
    intro c hc
    have := Text.toNat_lt_of_hex (h.hex_front c hc)
    omega
  have htext : f.text = .ofList (f.front ++ f.text.toList.drop shortLength) := by
    rw [front, List.take_append_drop, String.ofList_toList]
  have hcut := Text.bytePrefix?_of_append f.front (f.text.toList.drop shortLength)
  rwa [hsize, ← htext] at hcut

end Fingerprint

/-! ## Shared documents -/

namespace Markup

/-- Hexadecimal digits are letters and digits, and `i` is not among them. -/
theorem isName_of_hex {name : List Char} (h : ∀ c ∈ name, (Text.hexValue? c).isSome) : IsName name := by
  have hdigits : ∀ n < 103, (Text.hexValue? (Char.ofNat n)).isSome →
      isBoundary (some (Char.ofNat n)) = false ∧ Char.ofNat n ≠ 'i' := by
    decide +kernel
  intro c hc
  have := hdigits c.toNat (Text.toNat_lt_of_hex (h c hc))
  rw [Char.ofNat_toNat] at this
  exact this (h c hc)

/-- The ids that the markup of a rendering declares are those that it declared
before, with the front of the fingerprint before what follows the mark. -/
theorem declared_namespaced {f : Fingerprint} (h : f.IsHex) (markup : String) :
    ∃ t, namespaced? markup f = some t ∧
      declared none t.toList = (declared none markup.toList).map fun s =>
        f.front ++ replaceHyphens (insertName f.front (declared none markup.toList) s) := by
  refine ⟨.ofList (rename f.front markup.toList), ?_, ?_⟩
  · rw [namespaced?, h.short?_eq, Option.map_some, String.toList_ofList]
  · rw [String.toList_ofList, declared_rename (isName_of_hex h.hex_front)]

/-- **Renderings can share a document.**  Under two fingerprints of hexadecimal
digits that differ at the front, no id that one rendering declares is declared in
the other, whatever their markups are; and each declares as many ids as its markup
did. -/
theorem namespaced_disjoint {f₁ f₂ : Fingerprint} (h₁ : f₁.IsHex) (h₂ : f₂.IsHex)
    (hne : f₁.front ≠ f₂.front) (m₁ m₂ : String) :
    ∃ t₁ t₂, namespaced? m₁ f₁ = some t₁ ∧ namespaced? m₂ f₂ = some t₂ ∧
      (declared none t₁.toList).length = (declared none m₁.toList).length ∧
      (declared none t₂.toList).length = (declared none m₂.toList).length ∧
      ∀ s ∈ declared none t₁.toList, s ∉ declared none t₂.toList := by
  obtain ⟨t₁, ht₁, hids₁⟩ := declared_namespaced h₁ m₁
  obtain ⟨t₂, ht₂, hids₂⟩ := declared_namespaced h₂ m₂
  refine ⟨t₁, t₂, ht₁, ht₂, by rw [hids₁, List.length_map], by rw [hids₂, List.length_map], ?_⟩
  intro s hs₁ hs₂
  rw [hids₁] at hs₁
  rw [hids₂] at hs₂
  obtain ⟨s₁, -, rfl⟩ := List.mem_map.mp hs₁
  obtain ⟨s₂, -, heq⟩ := List.mem_map.mp hs₂
  exact hne (List.append_inj heq.symm (h₁.length_front.trans h₂.length_front.symm)).1

/-- One markup rendered under two fingerprints: its ids, one of them a prefix of the
other and with the mark inside, are no longer shared. -/
theorem namespaced_disjoint_one_markup :
    let f₁ : Fingerprint := ⟨.ofList (List.replicate 64 'a')⟩
    let f₂ : Fingerprint := ⟨.ofList (List.replicate 64 'b')⟩
    let m := "<g id=\"pgf1\"/><g id=\"pgf1pgf1\"/>"
    declared none m.toList = ["1".toList, "1pgf1".toList] ∧
      ∃ t₁ t₂, namespaced? m f₁ = some t₁ ∧ namespaced? m f₂ = some t₂ ∧
        (declared none t₁.toList).length = 2 ∧ (declared none t₂.toList).length = 2 ∧
        ∀ s ∈ declared none t₁.toList, s ∉ declared none t₂.toList := by
  intro f₁ f₂ m
  have hm : declared none m.toList = ["1".toList, "1pgf1".toList] := by decide +kernel
  have hne : f₁.front ≠ f₂.front := by
    rw [Fingerprint.front, Fingerprint.front, String.toList_ofList, String.toList_ofList]
    decide
  obtain ⟨t₁, t₂, ht₁, ht₂, hlen₁, hlen₂, hdisjoint⟩ :=
    namespaced_disjoint (Fingerprint.isHex_replicate rfl) (Fingerprint.isHex_replicate rfl) hne m m
  rw [hm] at hlen₁ hlen₂
  exact ⟨hm, t₁, t₂, ht₁, ht₂, hlen₁, hlen₂, hdisjoint⟩

end Markup
end Galley
