import Galley.MessagePack

/-! # Packed values are self-delimiting

No packed value is the beginning of another one, so a byte string starts with at
most one of them and what follows it is determined (`encode_append_inj`).  Every
value begins with a head that tells its kind and its size; `Head.read` takes a
head from the front of a byte string, and `read_encode` says that it finds the
one that was written, whatever comes after.

Sizes are written as words of 32 bits.  A value *fits* when all its texts and
lists have sizes that such a word holds (`Fits`); a longer one is written with a
truncated size and cannot be told apart from others. -/
namespace Galley
namespace Pack

/-! ## Big-endian numbers -/

/-- The number that bytes stand for, the most significant first. -/
def ofBigEndian : List UInt8 → Nat
  | [] => 0
  | b :: rest => b.toNat * Nat.pow 256 rest.length + ofBigEndian rest

theorem length_bigEndian (count n : Nat) : (bigEndian count n).length = count := by
  induction count with
  | zero => rfl
  | succ count ih => rw [bigEndian, List.length_cons, ih]

theorem ofBigEndian_bigEndian (count n : Nat) :
    ofBigEndian (bigEndian count n) = n % Nat.pow 256 count := by
  induction count with
  | zero => exact (Nat.mod_one n).symm
  | succ count ih =>
    rw [bigEndian, ofBigEndian, ih, length_bigEndian, UInt8.toNat_ofNat']
    have hsplit := Nat.mod_mul (x := n) (a := Nat.pow 256 count) (b := 256)
    show n / Nat.pow 256 count % 256 * Nat.pow 256 count + _ = n % (Nat.pow 256 count * 256)
    rw [hsplit, Nat.mul_comm, Nat.add_comm]

/-! ## Heads -/

/-- What the first bytes of a value tell: its kind, and how many bytes or items follow. -/
inductive Head where
  | absent
  | flag (value : Bool)
  | text (size : Nat)
  | list (size : Nat)
  deriving DecidableEq

namespace Head

/-- A head whose size is a number of `count` bytes. -/
def sized (kind : Nat → Head) (count : Nat) (bytes : List UInt8) : Head × List UInt8 :=
  (kind (ofBigEndian (bytes.take count)), bytes.drop count)

/-- What a first byte, by its number, and the bytes after it tell. -/
def lead (n : Nat) (rest : List UInt8) : Option (Head × List UInt8) :=
  if n < 0x90 then none
  else if n < 0xA0 then some (list (n - 0x90), rest)
  else if n < 0xC0 then some (text (n - 0xA0), rest)
  else match n with
    | 0xC0 => some (absent, rest)
    | 0xC2 => some (flag false, rest)
    | 0xC3 => some (flag true, rest)
    | 0xD9 => some (sized text 1 rest)
    | 0xDA => some (sized text 2 rest)
    | 0xDB => some (sized text 4 rest)
    | 0xDC => some (sized list 2 rest)
    | 0xDD => some (sized list 4 rest)
    | _ => none

/-- Takes a head from the front of a byte string. -/
def read : List UInt8 → Option (Head × List UInt8)
  | [] => none
  | b :: rest => lead b.toNat rest

theorem sized_bigEndian (kind : Nat → Head) {count n : Nat} (h : n < Nat.pow 256 count)
    (rest : List UInt8) : sized kind count (bigEndian count n ++ rest) = (kind n, rest) := by
  have hlen := length_bigEndian count n
  rw [sized, List.take_left' hlen, List.drop_left' hlen, ofBigEndian_bigEndian, Nat.mod_eq_of_lt h]

theorem read_textHeader {n : Nat} (h : n < 4294967296) (rest : List UInt8) :
    read (textHeader n ++ rest) = some (text n, rest) := by
  simp only [textHeader, Nat.mod_eq_of_lt h]
  split
  · have hbyte : (UInt8.ofNat (0xA0 + n)).toNat = 0xA0 + n :=
      UInt8.toNat_ofNat_of_lt' (show 0xA0 + n < 256 by omega)
    rw [List.singleton_append, read, hbyte]
    unfold lead
    rw [if_neg (by omega), if_neg (by omega), if_pos (by omega), Nat.add_sub_cancel_left]
  · split
    · exact congrArg some (sized_bigEndian text (by assumption) rest)
    · split
      · exact congrArg some (sized_bigEndian text (by assumption) rest)
      · exact congrArg some (sized_bigEndian text h rest)

theorem read_listHeader {n : Nat} (h : n < 4294967296) (rest : List UInt8) :
    read (listHeader n ++ rest) = some (list n, rest) := by
  simp only [listHeader, Nat.mod_eq_of_lt h]
  split
  · have hbyte : (UInt8.ofNat (0x90 + n)).toNat = 0x90 + n :=
      UInt8.toNat_ofNat_of_lt' (show 0x90 + n < 256 by omega)
    rw [List.singleton_append, read, hbyte]
    unfold lead
    rw [if_neg (by omega), if_pos (by omega), Nat.add_sub_cancel_left]
  · split
    · exact congrArg some (sized_bigEndian list (by assumption) rest)
    · exact congrArg some (sized_bigEndian list h rest)

end Head

/-! ## Values -/

mutual
/-- Every text and every list in a value has a size of 32 bits. -/
def Fits : Pack → Prop
  | absent => True
  | flag _ => True
  | text s => s.utf8ByteSize < 4294967296
  | list items => items.length < 4294967296 ∧ AllFit items

/-- Every one of several values fits. -/
def AllFit : List Pack → Prop
  | [] => True
  | item :: more => item.Fits ∧ AllFit more
end

mutual
instance decidableFits : (p : Pack) → Decidable p.Fits
  | absent => isTrue trivial
  | flag _ => isTrue trivial
  | text s => inferInstanceAs (Decidable (s.utf8ByteSize < 4294967296))
  | list items =>
    have := decidableAllFit items
    inferInstanceAs (Decidable (items.length < 4294967296 ∧ AllFit items))

instance decidableAllFit : (ps : List Pack) → Decidable (AllFit ps)
  | [] => isTrue trivial
  | item :: more =>
    have := decidableFits item
    have := decidableAllFit more
    inferInstanceAs (Decidable (item.Fits ∧ AllFit more))
end

/-- The head that a value is written with. -/
def head : Pack → Head
  | absent => .absent
  | flag value => .flag value
  | text s => .text s.utf8ByteSize
  | list items => .list items.length

/-- What is written after the head. -/
def content : Pack → List UInt8
  | absent => []
  | flag _ => []
  | text s => s.toUTF8.data.toList
  | list items => encodeAll items

theorem length_bytes (s : String) : s.toUTF8.data.toList.length = s.utf8ByteSize := rfl

/-- **The head of a value is found at its front**, and the content is what remains. -/
theorem read_encode {p : Pack} (h : p.Fits) (rest : List UInt8) :
    Head.read (p.encode ++ rest) = some (p.head, p.content ++ rest) := by
  cases p with
  | absent => rfl
  | flag value => cases value <;> rfl
  | text s =>
    rw [encode, encodeText, length_bytes, List.append_assoc]
    exact Head.read_textHeader h _
  | list items =>
    rw [encode, List.append_assoc]
    exact Head.read_listHeader h.1 _

theorem head_content_of_encode {p q : Pack} {u v : List UInt8} (hp : p.Fits) (hq : q.Fits)
    (h : p.encode ++ u = q.encode ++ v) : p.head = q.head ∧ p.content ++ u = q.content ++ v := by
  have hread := congrArg Head.read h
  rw [read_encode hp, read_encode hq] at hread
  exact Prod.mk.inj (Option.some.inj hread)

theorem eq_of_bytes_append {s t : String} {u v : List UInt8} (hsize : s.utf8ByteSize = t.utf8ByteSize)
    (h : s.toUTF8.data.toList ++ u = t.toUTF8.data.toList ++ v) : s = t ∧ u = v := by
  obtain ⟨hbytes, hrest⟩ := List.append_inj h hsize
  refine ⟨String.toByteArray_inj.mp (ByteArray.ext (Array.toList_inj.mp hbytes)), hrest⟩

mutual
/-- **No packed value is the beginning of another one.**  Equal bytes have equal
heads; these leave equal contents, whose sizes the heads have told. -/
theorem encode_append_inj : ∀ (p q : Pack) {u v : List UInt8}, p.Fits → q.Fits →
    p.encode ++ u = q.encode ++ v → p = q ∧ u = v
  | absent, q, u, v, hp, hq, h => by
      obtain ⟨hhead, hrest⟩ := head_content_of_encode hp hq h
      cases q <;> simp only [head, reduceCtorEq] at hhead
      exact ⟨rfl, hrest⟩
  | flag a, q, u, v, hp, hq, h => by
      obtain ⟨hhead, hrest⟩ := head_content_of_encode hp hq h
      cases q <;> simp only [head, reduceCtorEq, Head.flag.injEq] at hhead
      exact ⟨congrArg flag hhead, hrest⟩
  | text s, q, u, v, hp, hq, h => by
      obtain ⟨hhead, hrest⟩ := head_content_of_encode hp hq h
      cases q <;> simp only [head, reduceCtorEq, Head.text.injEq] at hhead
      obtain ⟨heq, hrest⟩ := eq_of_bytes_append hhead hrest
      exact ⟨congrArg text heq, hrest⟩
  | list items, q, u, v, hp, hq, h => by
      obtain ⟨hhead, hrest⟩ := head_content_of_encode hp hq h
      cases q with
      | list others =>
        obtain ⟨heq, hrest⟩ := encodeAll_append_inj items others hp.2 hq.2 (Head.list.inj hhead) hrest
        exact ⟨congrArg list heq, hrest⟩
      | _ => simp only [head, reduceCtorEq] at hhead

/-- As many packed values, one after the other, are told apart like single ones. -/
theorem encodeAll_append_inj : ∀ (ps qs : List Pack) {u v : List UInt8}, AllFit ps → AllFit qs →
    ps.length = qs.length → encodeAll ps ++ u = encodeAll qs ++ v → ps = qs ∧ u = v
  | [], [], _, _, _, _, _, h => ⟨rfl, h⟩
  | p :: ps, q :: qs, u, v, hp, hq, hlen, h => by
      rw [encodeAll, encodeAll, List.append_assoc, List.append_assoc] at h
      obtain ⟨rfl, hmore⟩ := encode_append_inj p q hp.1 hq.1 h
      obtain ⟨rfl, hrest⟩ := encodeAll_append_inj ps qs hp.2 hq.2 (Nat.succ.inj hlen) hmore
      exact ⟨rfl, hrest⟩
end

end Pack
end Galley
