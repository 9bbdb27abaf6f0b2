import Galley.Proofs.File.Confining
import Galley.Proofs.Memory.Fitting

/-! # What a write to the memory comes to

Every writer addresses one range of the memory.  If the range lies inside, all of it is
written, nothing else is, and the matching reader gives back what was written.  If it does
not, the writer fails.

A writer of one piece then leaves the memory as it was.  A text and a control block are
written in two pieces, each with a check of its own, so that the first piece stays if it
fits and the second one does not (`act_cases`): of a text that is too long for the end of the
memory the length byte is there, and of a control block its first word. -/
namespace Galley.Memory

/-- A text behind its length is read back. -/
theorem readPascal_patch {m : Memory} {offset : Nat} {text : ByteArray} (hshort : text.size ≤ maxPascalLength)
    (h : offset + (1 + text.size) ≤ m.size) :
    ((m.patch offset (oneByte (.ofNat text.size))).patch (offset + 1) text).readPascal offset = .ok text := by
  have hmax : maxPascalLength = 255 := rfl
  have hsmall : (UInt8.ofNat text.size).toNat = text.size := UInt8.toNat_ofNat_of_lt' (show text.size < 256 by omega)
  have hlength : offset + (oneByte (.ofNat text.size)).size ≤ m.size := by
    rw [size_oneByte]
    omega
  have htext : offset + 1 + text.size ≤ (m.patch offset (oneByte (.ofNat text.size))).size := by
    rw [size_patch hlength]
    omega
  have hread : (m.patch offset (oneByte (.ofNat text.size))).read offset 1 = .ok (oneByte (.ofNat text.size)) :=
    read_patch hlength
  have hone : ((m.patch offset (oneByte (.ofNat text.size))).patch (offset + 1) text).readByte offset =
      .ok (.ofNat text.size) := by
    rw [readByte, read_patch_of_apart htext (.inl (Nat.le_refl _)), hread]
    rfl
  rw [readPascal, hone]
  show Memory.read _ (offset + 1) (UInt8.ofNat text.size).toNat = .ok text
  rw [hsmall]
  exact read_patch htext

/-- What can write to a memory. -/
inductive Writer where
  | bytes (offset : Nat) (data : ByteArray)
  | byte (offset : Nat) (value : UInt8)
  | word (offset : Nat) (value : UInt32)
  /-- A length byte and a text. -/
  | text (offset : Nat) (data : ByteArray)
  | control (block : ControlBlock)

namespace Writer

/-- The access to the memory that a writer makes. -/
def act : Writer → Access Unit
  | bytes offset data => write offset data
  | byte offset value => writeByte offset value
  | word offset value => writeWord offset value
  | text offset data => writePascal offset data
  | control block => block.prepare

/-- Where the range that is written starts. -/
def offset : Writer → Nat
  | bytes offset _ | byte offset _ | word offset _ | text offset _ => offset
  | control block => block.start

/-- How long the range that is written is. -/
def length : Writer → Nat
  | bytes _ data => data.size
  | byte _ _ => 1
  | word _ _ => 4
  | text _ data => 1 + min data.size 255
  | control _ => 8

/-- The piece that is written first. -/
def first : Writer → ByteArray
  | bytes _ data => data
  | byte _ value => oneByte value
  | word _ value => wordBytes value
  | text _ data => oneByte (.ofNat (data.extract 0 maxPascalLength).size)
  | control block => wordBytes (.ofNat (block.start + 8))

/-- The piece that is written behind the first one, by the writers of two pieces. -/
def second? : Writer → Option ByteArray
  | bytes _ _ | byte _ _ | word _ _ => none
  | text _ data => some (data.extract 0 maxPascalLength)
  | control block => some (wordBytes (.ofNat block.stop))

/-- The matching reader gives back what was written. -/
def IsReadBack : Writer → Memory → Prop
  | bytes offset data, m => m.read offset data.size = .ok data
  | byte offset value, m => m.readByte offset = .ok value
  | word offset value, m => m.readWord offset = .ok value
  | text offset data, m => m.readPascal offset = .ok (data.extract 0 255)
  | control block, m => ∃ first second, m.readWord block.start = .ok first ∧ first.toNat = block.start + 8 ∧
      m.readWord (block.start + 4) = .ok second ∧ second.toNat = block.stop

/-- The two addresses in a control block leave room for the block below the end of 32-bit addresses. -/
def IsAddressed : Writer → Prop
  | control block => block.start < 2 ^ 32 - 8 ∧ block.stop < 2 ^ 32 - 8
  | _ => True

/-- The access of a first piece and what may come behind it. -/
def inPieces (offset : Nat) (first : ByteArray) : Option ByteArray → Access Unit
  | none => write offset first
  | some second => do
    write offset first
    write (offset + first.size) second

theorem act_eq_inPieces (w : Writer) : w.act = inPieces w.offset w.first w.second? := by
  cases w <;> rfl

theorem length_eq (w : Writer) : w.length = w.first.size + (w.second?.getD .empty).size := by
  cases w with
  | bytes _ _ => rfl
  | byte _ _ => rfl
  | word _ _ => rfl
  | text _ data =>
    simp only [length, first, second?, size_oneByte, Option.getD_some, ByteArray.size_extract, maxPascalLength]
    omega
  | control _ => rfl

variable {w : Writer} {m : Memory}

/-! ## When the range lies inside -/

/-- The memory with both pieces. -/
def written (w : Writer) (m : Memory) : Memory :=
  match w.second? with
  | none => m.patch w.offset w.first
  | some second => (m.patch w.offset w.first).patch (w.offset + w.first.size) second

theorem act_eq_ok (h : w.offset + w.length ≤ m.size) : w.act m = .ok () (w.written m) := by
  rw [act_eq_inPieces, written]
  rw [length_eq] at h
  cases hsecond : w.second? with
  | none => exact write_eq_ok (by omega)
  | some second =>
    rw [hsecond, Option.getD_some] at h
    have hfirst : w.offset + w.first.size ≤ m.size := by omega
    have hroom : w.offset + w.first.size + second.size ≤ (m.patch w.offset w.first).size := by
      rw [size_patch hfirst]
      omega
    show EStateM.bind (write w.offset w.first) (fun _ => write (w.offset + w.first.size) second) m = _
    rw [EStateM.bind, write_eq_ok hfirst]
    exact write_eq_ok hroom

/-- The range that is written. -/
def InRange (w : Writer) (i : Nat) : Prop := w.offset ≤ i ∧ i < w.offset + w.length

theorem changedWithin_written (h : w.offset + w.length ≤ m.size) : m.ChangedWithin w.InRange (w.written m) := by
  have hlength := w.length_eq
  have hfirst : m.ChangedWithin w.InRange (m.patch w.offset w.first) :=
    .patch (by omega) fun i hlow hhigh => ⟨hlow, by omega⟩
  rw [written]
  cases hsecond : w.second? with
  | none => exact hfirst
  | some second =>
    rw [hsecond, Option.getD_some] at hlength
    exact hfirst.andPatch (by omega) fun i hlow hhigh => ⟨by omega, by omega⟩

theorem isReadBack_written (hw : w.IsAddressed) (h : w.offset + w.length ≤ m.size) : w.IsReadBack (w.written m) := by
  cases w with
  | bytes offset data => exact read_patch h
  | byte offset value =>
    have hread : (m.patch offset (oneByte value)).read offset 1 = .ok (oneByte value) := read_patch h
    show (Memory.read _ offset 1).map _ = _
    rw [written, first, Writer.offset, second?, hread]
    rfl
  | word offset value => exact readWord_patch h
  | text offset data =>
    have hcut : (data.extract 0 maxPascalLength).size = min data.size 255 := by
      simp only [ByteArray.size_extract, maxPascalLength]
      omega
    have hroom : offset + (1 + (data.extract 0 maxPascalLength).size) ≤ m.size := by
      rw [hcut]
      exact h
    simp only [IsReadBack, written, second?, first, Writer.offset, size_oneByte]
    exact readPascal_patch (hcut ▸ Nat.min_le_right _ _) hroom
  | control block =>
    obtain ⟨hstart, hstop⟩ := hw
    obtain ⟨n, hn, -, hfirst, hsecond⟩ := ControlBlock.readWord_of_prepare (b := block) (m := m) h
    have hok : (control block).act m = .ok () n := hn
    obtain ⟨-, rfl⟩ := EStateM.Result.ok.inj ((act_eq_ok h).symm.trans hok)
    refine ⟨_, _, hfirst, ?_, hsecond, ?_⟩
    · exact UInt32.toNat_ofNat_of_lt' (show _ < 2 ^ 32 by omega)
    · exact UInt32.toNat_ofNat_of_lt' (show _ < 2 ^ 32 by omega)

/-! ## When it does not -/

theorem write_eq_error {offset : Nat} {data : ByteArray} (h : m.size < offset + data.size) :
    write offset data m = .error (m.fault offset data.size) m := by
  rw [write, covers, if_neg (by simpa using h)]

theorem act_eq_error (h : m.size < w.offset + w.length)
    (hfirst : w.second? = none ∨ m.size < w.offset + w.first.size) :
    w.act m = .error (m.fault w.offset w.first.size) m := by
  rw [act_eq_inPieces]
  rw [length_eq] at h
  cases hsecond : w.second? with
  | none =>
    rw [hsecond, Option.getD_none, ByteArray.size_empty] at h
    exact write_eq_error (by omega)
  | some second =>
    have hbeyond : m.size < w.offset + w.first.size := hfirst.resolve_left (by simp [hsecond])
    show EStateM.bind (write w.offset w.first) (fun _ => write (w.offset + w.first.size) second) m = _
    rw [EStateM.bind, write_eq_error hbeyond]

theorem act_eq_error_of_first {second : ByteArray} (h : m.size < w.offset + w.length)
    (hsecond : w.second? = some second) (hfirst : w.offset + w.first.size ≤ m.size) :
    w.act m = .error (m.fault (w.offset + w.first.size) second.size) (m.patch w.offset w.first) := by
  have hsize := size_patch hfirst
  rw [length_eq, hsecond, Option.getD_some] at h
  rw [act_eq_inPieces, hsecond]
  show EStateM.bind (write w.offset w.first) (fun _ => write (w.offset + w.first.size) second) m = _
  rw [EStateM.bind, write_eq_ok hfirst]
  show write (w.offset + w.first.size) second (m.patch w.offset w.first) = _
  rw [write_eq_error (by omega), fault, fault, hsize]

/-- **What a writer comes to.**  It succeeds exactly if its whole range lies inside the memory; then it
changes nothing else, and what it has written can be read back.  Where it fails, the memory is as it
was, unless the writer has two pieces and the first one fits: then that piece, and no more, is written. -/
theorem act_cases (w : Writer) (m : Memory) (hw : w.IsAddressed) :
    (w.offset + w.length ≤ m.size →
      ∃ n, w.act m = .ok () n ∧ m.ChangedWithin w.InRange n ∧ w.IsReadBack n) ∧
    (m.size < w.offset + w.length →
      (w.second? = none ∨ m.size < w.offset + w.first.size →
        w.act m = .error (m.fault w.offset w.first.size) m) ∧
      ∀ second, w.second? = some second → w.offset + w.first.size ≤ m.size →
        w.act m = .error (m.fault (w.offset + w.first.size) second.size) (m.patch w.offset w.first)) := by
  refine ⟨fun hroom => ?_, fun hbeyond => ⟨act_eq_error hbeyond, fun second => act_eq_error_of_first hbeyond⟩⟩
  exact ⟨w.written m, act_eq_ok hroom, changedWithin_written hroom, isReadBack_written hw hroom⟩

/-- A memory of eight bytes. -/
def eightBytes : Memory := ⟨⟨#[0, 0, 0, 0, 0, 0, 0, 0]⟩⟩

/-- A text that ends with the memory is written and read back; a control block of which only the first
word fits is refused, but that word is there. -/
theorem act_cases_eightBytes :
    ((text 4 "abc".toUTF8).IsAddressed ∧
      ∃ n, (text 4 "abc".toUTF8).act eightBytes = .ok () n ∧ n.readPascal 4 = .ok "abc".toUTF8) ∧
    ((control ⟨4, 8⟩).IsAddressed ∧
      (control ⟨4, 8⟩).act eightBytes = .error ⟨8, 4, 8⟩ (eightBytes.patch 4 (wordBytes 12))) := by
  have htext : (text 4 "abc".toUTF8).IsAddressed := trivial
  have hcontrol : (control ⟨4, 8⟩).IsAddressed := ⟨by decide, by decide⟩
  obtain ⟨n, hn, -, hback⟩ := (act_cases (text 4 "abc".toUTF8) eightBytes htext).1 (by decide)
  obtain ⟨-, hhalf⟩ := (act_cases (control ⟨4, 8⟩) eightBytes hcontrol).2 (by decide)
  exact ⟨⟨htext, n, hn, hback⟩, hcontrol, hhalf _ rfl (by decide)⟩

/-- A writer of two pieces may fail and leave its mark: the length of a text that does not fit. -/
theorem text_half_written :
    ∃ fault n, (text 6 "abc".toUTF8).act eightBytes = .error fault n ∧
      eightBytes.bytes.data[6]? = some 0 ∧ n.bytes.data[6]? = some 3 := by
  refine ⟨_, _, act_eq_error_of_first (by decide) rfl (by decide), rfl, ?_⟩
  have hroom : 6 + (oneByte 3).size ≤ eightBytes.bytes.size := by decide
  show (splice eightBytes.bytes 6 (oneByte 3)).data[6]? = _
  rw [getElem?_splice hroom, if_pos (by decide)]
  rfl

end Writer
end Galley.Memory
