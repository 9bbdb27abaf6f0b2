import Galley.Proofs.File.Reading

/-! # A file is read once, in order

A read of bytes moves the cursor by the length that is asked for, also where the file has
less.  So a cursor inside the file is where all the lengths asked for so far add up to, and
one that has left the file never comes back: from there on every read finds the end
(`Streamed`).  A sequence of reads of at least one byte each then delivers the file piece by
piece, every byte once, and after that nothing but zeros (`streams_content`). -/
namespace Galley

/-- The bytes that an act asks a file for. -/
def Act.bytesAsked : Act → Nat
  | get _ _ _ length => length.toNat
  | _ => 0

/-- The act reads at least one byte, into a place inside the guest's memory. -/
inductive Act.ReadsInBounds (handle : Int32) : Act → Prop where
  | get {m : Memory} {pointer length : UInt32} (hlength : 0 < length.toNat)
      (hroom : pointer.toNat + length.toNat ≤ m.size) : ReadsInBounds handle (.get m handle pointer length)

/-- What a read of `length` bytes is to deliver once `asked` bytes have been asked for: the
bytes from there on, as far as there are any, and a single zero if there are none. -/
def pieceAt (content : ByteArray) (asked length : Nat) : ByteArray :=
  if asked < content.size then slice content asked length else oneByte 0

/-- A reader is at the end of a line behind a byte that ends one, and at the end of the file. -/
def lineEndsAt (content : ByteArray) (asked : Nat) : Bool := (byteAt? content asked).all Desk.endsLine

namespace Desk

/-- Where a file stands once `asked` bytes have been asked for.  Inside the content the cursor
is right behind what was asked for; beyond it, it may be anywhere. -/
structure Streamed (content : ByteArray) (asked : Nat) (f : RegularFile) : Prop where
  isOpen : f.isOpen = true
  buffer : f.buffer = content
  inside : asked < content.size → f.cursor.position = asked ∧ f.cursor.atEnd = false
  outside : content.size ≤ asked → content.size ≤ f.cursor.position

theorem Streamed.opened (name : String) (mode : Mode) (content : ByteArray) :
    Streamed content 0 (.opened name mode content) where
  isOpen := rfl
  buffer := rfl
  inside _ := ⟨rfl, rfl⟩
  outside h := h

variable {content : ByteArray} {asked : Nat} {f : RegularFile} {m : Memory} {pointer length : Nat}

theorem Streamed.inside_of_lt (h : Streamed content asked f) (hlt : f.cursor.position < f.buffer.size) :
    asked < content.size := by
  by_contra hle
  have hpast := h.outside (Nat.le_of_not_lt hle)
  rw [h.buffer] at hlt
  omega

/-- What a read makes of a stream: it delivers the next piece and takes the stream on. -/
structure Streamed.Next (content : ByteArray) (asked : Nat) (m : Memory) (pointer length : Nat)
    (o : Outcome Unit) : Prop where
  result : o.result = .ok ()
  memory : o.memory = m.patch pointer (pieceAt content asked length)
  file : ∃ f, o.file = .regular f ∧ Streamed content (asked + length) f ∧
    f.cursor.atEnd = decide (content.size ≤ asked) ∧ f.cursor.atLineEnd = lineEndsAt content asked

theorem Streamed.next {o : Outcome Unit} (h : Streamed content asked f)
    (hsize : content.size ≤ RegularFile.maxCapacity) (hlength : 0 < length) (hword : length < 2 ^ 32)
    (hroom : pointer + length ≤ m.size) (ho : ReadEnds m pointer length (.regular f) o) :
    Streamed.Next content asked m pointer length o := by
  have hcapacity : RegularFile.maxCapacity = 2 ^ 63 - 1 := rfl
  have hbound : wordBound = 2 ^ 64 := rfl
  cases ho with
  | missing hmissing => exact absurd (h.isOpen.symm.trans hmissing) nofun
  | outside _ hfault => omega
  | unmarked _ hnothing => omega
  | @nothing f _ _ hnothing _ =>
    have hend : content.size ≤ asked := by
      by_contra hmore
      have hposition := (h.inside (Nat.lt_of_not_le hmore)).1
      rw [h.buffer] at hnothing
      omega
    have hbyte : byteAt? content asked = none := byteAt?_eq_none_iff.mpr hend
    refine ⟨rfl, ?_, _, rfl, ⟨h.isOpen, h.buffer, fun hlt => ?_, fun _ => h.outside hend⟩, ?_, ?_⟩
    · rw [pieceAt, if_neg (Nat.not_lt.mpr hend)]
    · omega
    · exact (decide_eq_true hend).symm
    · rw [lineEndsAt, hbyte]
      rfl
  | @bytes f first _ _ _ hfirst hinside =>
    -- where a byte is left the cursor has not left the content, and is right behind what was asked for
    have hmore := h.inside_of_lt (lt_of_byteAt?_eq_some hfirst)
    obtain ⟨hposition, hend⟩ := h.inside hmore
    rw [h.buffer, hposition] at hfirst
    refine ⟨rfl, ?_, _, rfl, ⟨h.isOpen, h.buffer, fun hlt => ?_, fun hle => ?_⟩, ?_, ?_⟩
    · rw [pieceAt, if_pos hmore, h.buffer, hposition]
    · exact ⟨congrArg (· + length) hposition, hend⟩
    · exact Nat.le_trans hle (Nat.le_of_eq (congrArg (· + length) hposition).symm)
    · exact hend.trans (decide_eq_false (Nat.not_le.mpr hmore)).symm
    · rw [lineEndsAt, hfirst]
      rfl
  | @beyond f first _ _ _ hfirst hpast =>
    have hlt := lt_of_byteAt?_eq_some hfirst
    rw [h.buffer] at hlt
    omega

/-- A read in bounds delivers the next piece, and the host can go on. -/
theorem exists_next {d : Desk} {handle : Int32} {content : ByteArray} {asked : Nat} {f : RegularFile}
    (hfile : d.file handle = .ok (.regular f)) (h : Streamed content asked f)
    (hsize : content.size ≤ RegularFile.maxCapacity) {m : Memory} {pointer length : UInt32}
    (hlength : 0 < length.toNat) (hroom : pointer.toNat + length.toNat ≤ m.size) :
    ∃ o, Streamed.Next content asked m pointer.toNat length.toNat o ∧
      ComesTo (.get m handle pointer length) (fun _ => .done) handle d o := by
  obtain ⟨o, hends, hcomes⟩ := comesTo_get hfile m pointer length
  exact ⟨o, h.next hsize hlength length.toNat_lt hroom hends, hcomes⟩

/-- What reads in bounds have left of a file with this content. -/
def StreamedBy (content : ByteArray) (done : List Act) (f : OpenFile) : Prop :=
  ∃ g, f = .regular g ∧ Streamed content (done.map Act.bytesAsked).sum g

/-- One read takes the stream on. -/
theorem StreamedBy.exists_after {d : Desk} {handle : Int32} {content : ByteArray} {done : List Act} {f : OpenFile}
    {a : Act} (h : StreamedBy content done f) (hsize : content.size ≤ RegularFile.maxCapacity)
    (hfile : d.file handle = .ok f) (ha : a.ReadsInBounds handle) :
    ∃ d' f', d.after a = some d' ∧ d'.file handle = .ok f' ∧ StreamedBy content (done ++ [a]) f' ∧
      f'.atEnd = decide (content.size ≤ (done.map Act.bytesAsked).sum) := by
  obtain ⟨g, rfl, hg⟩ := h
  cases ha with
  | @get m pointer length hlength hroom =>
    obtain ⟨o, ⟨hresult, -, g', hfile', hg', hend, -⟩, hcomes⟩ := exists_next hfile hg hsize hlength hroom
    have hstream : StreamedBy content (done ++ [.get m handle pointer length]) o.file := by
      refine ⟨g', hfile', ?_⟩
      rw [List.map_append, List.sum_append]
      exact hg'
    exact ⟨_, o.file, hcomes.after_eq_of_ok hresult, file_desk hfile o, hstream, hfile' ▸ hend⟩

/-- **Reads deliver a file once, in order.**  From a file that is freshly opened for reading, and
with reads of at least one byte as the only work on its handle, every read delivers the piece
that follows all that was asked for before, cut where the file ends, and leaves the rest of
the guest's memory as it is.  It finds no end, and the end of a line exactly where its first
byte is one.  Once the whole file has been asked for, every read delivers a single zero and
finds the end.  The size of a byte array is a signed word. -/
theorem streams_content {d e : Desk} {handle : Int32} {name : String} {content : ByteArray}
    (hfile : d.file handle = .ok (.regular (.opened name .read content)))
    (hsize : content.size ≤ RegularFile.maxCapacity) {acts : List Act}
    (hacts : ∀ a ∈ worksOn handle acts, a.ReadsInBounds handle) (hrun : d.run acts = some e) {m : Memory}
    {pointer length : UInt32} (hread : (Act.get m handle pointer length).ReadsInBounds handle) :
    let asked := ((worksOn handle acts).map Act.bytesAsked).sum
    let read := Act.get m handle pointer length
    read.reply e = ⟨.ok .done, m.patch pointer.toNat (pieceAt content asked length.toNat)⟩ ∧
      ∃ e', e.after read = some e' ∧ e'.atEnd handle = .ok (decide (content.size ≤ asked)) ∧
        e'.atLineEnd handle = .ok (lineEndsAt content asked) := by
  intro asked read
  obtain ⟨hlength, hroom⟩ := hread
  have hstart : StreamedBy content [] (.regular (.opened name .read content)) := ⟨_, rfl, .opened ..⟩
  obtain ⟨f, hf, g, rfl, hg⟩ := file_of_works hfile hstart
    (fun {done d d' f a} hdone hf hfront hafter => by
      obtain ⟨d'', f', hafter', hf', hdone', -⟩ :=
        hdone.exists_after hsize hf (hacts a (hfront.subset List.mem_concat_self))
      cases hafter.symm.trans hafter'
      exact ⟨f', hf', hdone'⟩) hrun
  obtain ⟨o, ⟨hresult, hmemory, g', hfile', -, hend, hline⟩, hcomes⟩ := exists_next hf hg hsize hlength hroom
  have hleft := file_desk hf o
  refine ⟨?_, _, hcomes.after_eq_of_ok hresult, ?_, ?_⟩
  · rw [hcomes.reply, hresult, hmemory]
    rfl
  · rw [Desk.atEnd, hleft, hfile']
    exact congrArg Except.ok hend
  · rw [Desk.atLineEnd, hleft, hfile']
    exact congrArg Except.ok hline

/-- A desk with a file of three bytes that has just been opened. -/
def threeBytes : Desk :=
  ((Desk.start .empty fun _ => none).push (.regular (.opened "a.tex" .read "ab\n".toUTF8))).2

theorem readsInBounds_zeroed {pointer length : UInt32} (hlength : 0 < length.toNat)
    (hroom : pointer.toNat + length.toNat ≤ 16) : (Act.get (.zeroed 16) 0 pointer length).ReadsInBounds 0 := by
  refine .get hlength ?_
  rw [Memory.size, Memory.zeroed, size_zeros]
  exact hroom

/-- Of a file of three bytes two are asked for, and then eight, of which one is there; the next
read finds the end. -/
theorem streams_content_past_end :
    ∃ e, threeBytes.run [.get (.zeroed 16) 0 0 2, .atLineEnd 0, .get (.zeroed 16) 0 0 8] = some e ∧
      (Act.get (.zeroed 16) 0 4 1).reply e = ⟨.ok .done, (Memory.zeroed 16).patch 4 (oneByte 0)⟩ ∧
      ∃ e', e.after (.get (.zeroed 16) 0 4 1) = some e' ∧ e'.atEnd 0 = .ok true := by
  have hfile : threeBytes.file 0 = .ok (.regular (.opened "a.tex" .read "ab\n".toUTF8)) := file_push rfl _
  have hsize : "ab\n".toUTF8.size ≤ RegularFile.maxCapacity := by decide
  let two := Act.get (.zeroed 16) 0 0 2
  let eight := Act.get (.zeroed 16) 0 0 8
  have htwo : two.ReadsInBounds 0 := readsInBounds_zeroed (by decide) (by decide)
  have height : eight.ReadsInBounds 0 := readsInBounds_zeroed (by decide) (by decide)
  have hone : (Act.get (.zeroed 16) 0 4 1).ReadsInBounds 0 := readsInBounds_zeroed (by decide) (by decide)
  have hworks₁ : ∀ a ∈ worksOn 0 [two, .atLineEnd 0], a.ReadsInBounds 0 := List.forall_mem_singleton.mpr htwo
  have hworks₂ : ∀ a ∈ worksOn 0 [two, .atLineEnd 0, eight], a.ReadsInBounds 0 :=
    List.forall_mem_cons.mpr ⟨htwo, List.forall_mem_singleton.mpr height⟩
  have hrun₀ : threeBytes.run [] = some threeBytes := rfl
  obtain ⟨-, d₁, hafter₁, -⟩ := streams_content hfile hsize (List.forall_mem_nil _) hrun₀ htwo
  have hrun₁ : threeBytes.run [two, .atLineEnd 0] = some d₁ := by
    rw [run_of_after hafter₁, run_of_after (after_of_asks rfl d₁)]
    rfl
  obtain ⟨-, d₂, hafter₂, -⟩ := streams_content hfile hsize hworks₁ hrun₁ height
  have hrun₂ : threeBytes.run [two, .atLineEnd 0, eight] = some d₂ := run_concat_of_after hrun₁ hafter₂
  obtain ⟨hreply, d₃, hafter₃, hend, -⟩ := streams_content hfile hsize hworks₂ hrun₂ hone
  exact ⟨d₂, hrun₂, hreply, d₃, hafter₃, hend⟩

end Desk
end Galley
