import Galley.File.Name
import Galley.Proofs.Text.Encoding
import Galley.Proofs.Text.Trimming
import Mathlib.Data.List.Basic

/-! # Spellings of a file name

A program hands a name over in a buffer: padded with spaces and NULs, perhaps behind a marker and
a font area, perhaps in braces or quotes.  A name that neither begins like one of these nor ends
in padding (`Bare`) is found in every such spelling (`spellings_agree`).  NULs are taken off at
the end of the buffer only, so those before a closing brace or quote belong to the name. -/
namespace Galley.FileName

/-! ## The parts that are taken off -/

theorem dropFront_append (front cs : List Char) : dropFront front (front ++ cs) = cs := by
  rw [dropFront, List.isPrefixOf?_eq_some_iff_append_eq.mpr rfl, Option.getD_some]

theorem dropFront_of_other_front {front cs : List Char} (h : ¬ front <+: cs) : dropFront front cs = cs := by
  have hnone : front.isPrefixOf? cs = none := by
    rw [Option.eq_none_iff_forall_ne_some]
    intro rest hrest
    exact h ⟨rest, List.isPrefixOf?_eq_some_iff_append_eq.mp hrest⟩
  rw [dropFront, hnone, Option.getD_none]

theorem unwrap_of_head {opening closing : Char} {cs : List Char} (h : ∀ c ∈ cs.head?, c ≠ opening) :
    unwrap opening closing cs = cs := by
  cases cs with
  | nil => rfl
  | cons c rest =>
    have hc : (c == opening) = false := beq_eq_false_iff_ne.mpr (h c rfl)
    rw [unwrap, hc]
    rfl

/-- What stands in marks is taken out of them, whatever comes after. -/
theorem unwrap_marked {opening closing : Char} {inner : List Char} (rest : List Char) (h : closing ∉ inner) :
    unwrap opening closing (opening :: (inner ++ closing :: rest)) = inner := by
  rw [unwrap, if_pos (beq_self_eq_true opening), List.takeWhile_append_of_pos, List.takeWhile_cons]
  · simp
  · intro c hc
    simpa using ne_of_mem_of_not_mem hc h

/-! ## Bare names -/

/-- Nothing is taken off the front of the text. -/
structure Plain (cs : List Char) : Prop where
  unmarked : ∀ c ∈ cs.head?, c ≠ '\x7b' ∧ c ≠ '"' ∧ c ≠ '*'
  area : ¬ fontArea <+: cs

/-- Nothing is taken off either end of the text. -/
structure Bare (cs : List Char) : Prop extends Plain cs where
  unpadded : ∀ c ∈ cs.getLast?, c ≠ ' ' ∧ c ≠ '\x00'

theorem bare_iff {cs : List Char} : Bare cs ↔
    (cs.head?.all fun c => c != '\x7b' && c != '"' && c != '*') ∧ ¬ fontArea.isPrefixOf cs ∧
      cs.getLast?.all fun c => c != ' ' && c != '\x00' := by
  simp only [Option.all_eq_true, Bool.and_eq_true, bne_iff_ne, List.isPrefixOf_iff_prefix, and_assoc]
  constructor
  · intro h
    exact ⟨h.unmarked, h.area, h.unpadded⟩
  · rintro ⟨hhead, harea, hlast⟩
    exact ⟨⟨hhead, harea⟩, hlast⟩

instance (cs : List Char) : Decidable (Bare cs) := decidable_of_iff' _ bare_iff

/-- What may stand in front of a name: the marker, the font area, both or none. -/
def front (marked area : Bool) : List Char := (if marked then ['*'] else []) ++ if area then fontArea else []

theorem front_false_false : front false false = [] := rfl

theorem front_false_true : front false true = fontArea := rfl

theorem front_true (area : Bool) : front true area = '*' :: front false area := rfl

theorem fontArea_eq_cons : fontArea = 'T' :: "eXfonts:".toList := by decide

/-- The padding is of spaces and NULs. -/
def Padding (pad : List Char) : Prop := ∀ c ∈ pad, c = ' ' ∨ c = '\x00'

variable {cs pad : List Char}

theorem Plain.not_marker_front (h : Plain cs) : ¬ ['*'] <+: cs := by
  rintro ⟨rest, rfl⟩
  exact (h.unmarked '*' rfl).2.2 rfl

/-- Padding behind a name does not put a marker or a font area in front of it. -/
theorem Plain.append_padding (h : Plain cs) (hpad : Padding pad) : Plain (cs ++ pad) where
  unmarked c hc := by
    rw [List.head?_append, Option.mem_def, Option.or_eq_some_iff] at hc
    rcases hc with hc | ⟨-, hc⟩
    · exact h.unmarked c hc
    · rcases hpad c (List.mem_of_mem_head? hc) with rfl | rfl <;> decide
  area := by
    rintro ⟨rest, hrest⟩
    rcases List.append_eq_append_iff.mp hrest with ⟨more, hcs, -⟩ | ⟨more, harea, hmore⟩
    · exact h.area ⟨more, hcs.symm⟩
    · cases more with
      | nil =>
        rw [List.append_nil] at harea
        exact h.area (harea ▸ List.prefix_rfl)
      | cons c more =>
        -- the first character of the padding would be one of the font area
        have hc : c ∈ fontArea := by simp [harea]
        have hno : ' ' ∉ fontArea ∧ '\x00' ∉ fontArea := by decide
        rcases hpad c (by simp [hmore]) with rfl | rfl
        · exact hno.1 hc
        · exact hno.2 hc

/-- A marker and a font area are taken off the name they stand before. -/
theorem Plain.dropFront_front (h : Plain cs) (marked area : Bool) :
    dropFront fontArea (dropFront ['*'] (front marked area ++ cs)) = cs := by
  have harea : dropFront fontArea (front false area ++ cs) = cs := by
    cases area
    · rw [front_false_false, List.nil_append, dropFront_of_other_front h.area]
    · rw [front_false_true, dropFront_append]
  cases marked
  · have hmarker : ¬ ['*'] <+: front false area ++ cs := by
      cases area
      · rw [front_false_false, List.nil_append]
        exact h.not_marker_front
      · rw [front_false_true, fontArea_eq_cons, List.cons_append, List.cons_prefix_cons]
        exact fun hT => absurd hT.1 (by decide)
    rw [dropFront_of_other_front hmarker, harea]
  · have hmarker : dropFront ['*'] (front true area ++ cs) = front false area ++ cs := dropFront_append ['*'] _
    rw [hmarker, harea]

/-- A name behind a marker or a font area begins with no mark. -/
theorem Plain.head?_front (h : Plain cs) (marked area : Bool) :
    ∀ c ∈ (front marked area ++ cs).head?, c ≠ '\x7b' ∧ c ≠ '"' := by
  cases marked
  · cases area
    · intro c hc
      exact ⟨(h.unmarked c hc).1, (h.unmarked c hc).2.1⟩
    · rw [front_false_true, fontArea_eq_cons, List.cons_append, List.head?_cons]
      rintro _ ⟨⟩
      decide
  · rw [front_true, List.cons_append, List.head?_cons]
    rintro _ ⟨⟩
    decide

theorem Bare.getLast?_front (h : Bare cs) (marked area : Bool) :
    ∀ c ∈ (front marked area ++ cs).getLast?, c ≠ ' ' ∧ c ≠ '\x00' := by
  have hno : ' ' ∉ front marked area ∧ '\x00' ∉ front marked area := by cases marked <;> cases area <;> decide
  intro c hc
  rw [List.getLast?_append, Option.mem_def, Option.or_eq_some_iff] at hc
  rcases hc with hc | ⟨-, hc⟩
  · exact h.unpadded c hc
  · have hfront : c ∈ front marked area := List.mem_of_getLast? hc
    exact ⟨ne_of_mem_of_not_mem hfront hno.1, ne_of_mem_of_not_mem hfront hno.2⟩

/-! ## Spellings of a text -/

/-- The marks that a name may stand in. -/
inductive Wrapper where
  | braces
  | quotes
  /-- Quotes in braces. -/
  | both

def Wrapper.opening : Wrapper → List Char
  | braces => ['\x7b']
  | quotes => ['"']
  | both => ['\x7b', '"']

def Wrapper.closing : Wrapper → List Char
  | braces => ['\x7d']
  | quotes => ['"']
  | both => ['"', '\x7d']

/-- Marks are taken off with all that comes after them; NULs at the end of the buffer are there. -/
theorem spelled_wrap (w : Wrapper) {inner : List Char} (rest : List Char) (hbrace : '\x7d' ∉ inner)
    (hquote : '"' ∉ inner) :
    spelled (w.opening ++ inner ++ w.closing ++ rest) =
      dropFront fontArea (dropFront ['*'] (Text.dropTrailing (· == ' ') inner)) := by
  have hhead : ∀ c ∈ inner.head?, c ≠ '"' := fun c hc => ne_of_mem_of_not_mem (List.mem_of_mem_head? hc) hquote
  rw [spelled]
  cases w with
  | braces =>
    have hbuffer : ['\x7b'] ++ inner ++ ['\x7d'] ++ rest = '\x7b' :: inner ++ '\x7d' :: rest := by simp
    rw [Wrapper.opening, Wrapper.closing, hbuffer, Text.dropTrailing_append_cons _ _ (by decide), List.cons_append,
      unwrap_marked _ hbrace, unwrap_of_head hhead]
  | quotes =>
    have hbuffer : ['"'] ++ inner ++ ['"'] ++ rest = '"' :: inner ++ '"' :: rest := by simp
    have hopen : ∀ c ∈ ('"' :: (inner ++ '"' :: Text.dropTrailing (· == '\x00') rest)).head?, c ≠ '\x7b' := by
      rintro _ ⟨⟩
      decide
    rw [Wrapper.opening, Wrapper.closing, hbuffer, Text.dropTrailing_append_cons _ _ (by decide), List.cons_append,
      unwrap_of_head hopen, unwrap_marked _ hquote]
  | both =>
    have hbuffer : ['\x7b', '"'] ++ inner ++ ['"', '\x7d'] ++ rest =
        '\x7b' :: ('"' :: (inner ++ ['"'])) ++ '\x7d' :: rest := by simp
    have hquoted : '\x7d' ∉ '"' :: (inner ++ ['"']) := by simp [hbrace]
    rw [Wrapper.opening, Wrapper.closing, hbuffer, Text.dropTrailing_append_cons _ _ (by decide), List.cons_append,
      unwrap_marked _ hquoted, unwrap_marked _ hquote]

/-! ### Bare names in a buffer -/

theorem padding_replicate (spaces nuls : Nat) :
    Padding (List.replicate spaces ' ' ++ List.replicate nuls '\x00') := by
  intro c hc
  rcases List.mem_append.mp hc with hc | hc
  · exact .inl (List.eq_of_mem_replicate hc)
  · exact .inr (List.eq_of_mem_replicate hc)

/-- A closing mark is in a spelling only if it is in the name. -/
theorem notMem_spelling {c : Char} (hcs : c ∉ cs) (hpad : Padding pad) (hc : c = '\x7d' ∨ c = '"')
    (marked area : Bool) : c ∉ front marked area ++ cs ++ pad := by
  have hfront : '\x7d' ∉ front marked area ∧ '"' ∉ front marked area := by
    cases marked <;> cases area <;> decide
  simp only [List.mem_append, not_or]
  refine ⟨⟨?_, hcs⟩, fun hmem => ?_⟩
  · rcases hc with rfl | rfl
    · exact hfront.1
    · exact hfront.2
  · rcases hc with rfl | rfl <;> rcases hpad _ hmem with h | h <;> exact absurd h (by decide)

/-- A bare name is found before spaces and behind a marker and a font area. -/
theorem Bare.dropFront_spaced (h : Bare cs) (marked area : Bool) (spaces : Nat) :
    dropFront fontArea (dropFront ['*']
      (Text.dropTrailing (· == ' ') (front marked area ++ cs ++ List.replicate spaces ' '))) = cs := by
  rw [Text.dropTrailing_append_eq_self, h.dropFront_front]
  · exact fun c hc => beq_eq_false_iff_ne.mpr (h.getLast?_front marked area c hc).1
  · exact fun c hc => beq_iff_eq.mpr (List.eq_of_mem_replicate hc)

theorem Bare.spelled_padded (h : Bare cs) (marked area : Bool) (spaces nuls : Nat) :
    spelled (front marked area ++ cs ++ List.replicate spaces ' ' ++ List.replicate nuls '\x00') = cs := by
  have hspaced : Plain (cs ++ List.replicate spaces ' ') := by
    simpa using h.append_padding (padding_replicate spaces 0)
  have hhead := hspaced.head?_front marked area
  rw [← List.append_assoc] at hhead
  have hlast : ∀ c ∈ (front marked area ++ cs ++ List.replicate spaces ' ').getLast?, (c == '\x00') = false := by
    intro c hc
    rw [List.getLast?_append, Option.mem_def, Option.or_eq_some_iff] at hc
    rcases hc with hc | ⟨-, hc⟩
    · rw [List.eq_of_mem_replicate (List.mem_of_getLast? hc)]
      rfl
    · exact beq_eq_false_iff_ne.mpr (h.getLast?_front marked area c hc).2
  rw [spelled, Text.dropTrailing_append_eq_self hlast, unwrap_of_head fun c hc => (hhead c hc).1,
    unwrap_of_head fun c hc => (hhead c hc).2, h.dropFront_spaced]
  exact fun c hc => beq_iff_eq.mpr (List.eq_of_mem_replicate hc)

theorem Bare.spelled_wrap (h : Bare cs) (hbrace : '\x7d' ∉ cs) (hquote : '"' ∉ cs) (marked area : Bool)
    (spaces : Nat) (w : Wrapper) (rest : List Char) :
    spelled (w.opening ++ (front marked area ++ cs ++ List.replicate spaces ' ') ++ w.closing ++ rest) = cs := by
  have hpad : Padding (List.replicate spaces ' ') := by simpa using padding_replicate spaces 0
  rw [FileName.spelled_wrap w rest (notMem_spelling hbrace hpad (.inl rfl) _ _)
    (notMem_spelling hquote hpad (.inr rfl) _ _), h.dropFront_spaced]

/-- NULs before a closing mark are not at the end of the buffer, and spaces before them not at the
end of the name. -/
theorem Bare.spelled_wrap_nuls (h : Bare cs) (hbrace : '\x7d' ∉ cs) (hquote : '"' ∉ cs) (marked area : Bool)
    (spaces : Nat) {nuls : Nat} (hnuls : 0 < nuls) (w : Wrapper) (rest : List Char) :
    spelled (w.opening ++ (front marked area ++ cs ++ (List.replicate spaces ' ' ++ List.replicate nuls '\x00')) ++
      w.closing ++ rest) = cs ++ (List.replicate spaces ' ' ++ List.replicate nuls '\x00') := by
  have hpad := padding_replicate spaces nuls
  have hlast : ∀ c ∈ (front marked area ++ cs ++
      (List.replicate spaces ' ' ++ List.replicate nuls '\x00')).getLast?, (c == ' ') = false := by
    intro c hc
    obtain ⟨k, rfl⟩ := Nat.exists_eq_succ_of_ne_zero hnuls.ne'
    rw [List.replicate_succ', ← List.append_assoc, ← List.append_assoc, List.getLast?_concat] at hc
    obtain rfl := Option.some.inj hc
    rfl
  rw [FileName.spelled_wrap w rest (notMem_spelling hbrace hpad (.inl rfl) _ _)
    (notMem_spelling hquote hpad (.inr rfl) _ _), Text.dropTrailing_eq_self hlast, List.append_assoc,
    (h.append_padding hpad).dropFront_front]

/-! ## Spellings in bytes -/

/-- A name in a buffer: behind a marker and a font area, and before spaces and then NULs. -/
def padded (marked area : Bool) (name : List UInt8) (spaces nuls : Nat) : List UInt8 :=
  Text.codes (front marked area) ++ name ++ List.replicate spaces 0x20 ++ List.replicate nuls 0

/-- A buffer in marks, with more after them. -/
def Wrapper.wrap (w : Wrapper) (inner rest : List UInt8) : List UInt8 :=
  Text.codes w.opening ++ inner ++ Text.codes w.closing ++ rest

/-- What a bare name stands for. -/
def meant (name : List UInt8) : FileName :=
  if name = Text.codes "TTY:".toList then .terminal
  else if name = Text.codes "TeXformats:TEX.POOL".toList then .file "tex.pool"
  else .file (.ofList (Text.latin1List name))

theorem latin1List_front (marked area : Bool) :
    Text.latin1List (Text.codes (front marked area)) = front marked area :=
  Text.latin1List_codes (List.all_eq_true.mp (by cases marked <;> cases area <;> decide))

theorem latin1List_padded (marked area : Bool) (name : List UInt8) (spaces nuls : Nat) :
    Text.latin1List (padded marked area name spaces nuls) =
      front marked area ++ Text.latin1List name ++ List.replicate spaces ' ' ++ List.replicate nuls '\x00' := by
  simp only [padded, Text.latin1List_append, latin1List_front, Text.latin1List_replicate]
  rfl

theorem latin1List_wrap (w : Wrapper) (inner rest : List UInt8) :
    Text.latin1List (w.wrap inner rest) =
      w.opening ++ Text.latin1List inner ++ w.closing ++ Text.latin1List rest := by
  have hopening : ∀ c ∈ w.opening, Text.isLatin1 c := List.all_eq_true.mp (by cases w <;> decide)
  have hclosing : ∀ c ∈ w.closing, Text.isLatin1 c := List.all_eq_true.mp (by cases w <;> decide)
  simp only [Wrapper.wrap, Text.latin1List_append, Text.latin1List_codes hopening, Text.latin1List_codes hclosing]

theorem ofSpelled_latin1List (name : List UInt8) : ofSpelled (Text.latin1List name) = meant name := by
  have hterminal : Text.latin1List name = terminalName ↔ name = Text.codes terminalName :=
    Text.latin1List_eq_iff (List.all_eq_true.mp (by decide))
  have hpool : Text.latin1List name = poolAlias ↔ name = Text.codes poolAlias :=
    Text.latin1List_eq_iff (List.all_eq_true.mp (by decide))
  simp only [ofSpelled, beq_iff_eq, hterminal, hpool]
  rfl

theorem parse_of_spelled {raw name : List UInt8} (h : spelled (Text.latin1List raw) = Text.latin1List name) :
    parse raw = meant name := by
  rw [parse, h, ofSpelled_latin1List]

theorem notMem_latin1List {b : UInt8} {bs : List UInt8} (h : b ∉ bs) : Text.latin1Char b ∉ Text.latin1List bs :=
  mt Text.mem_of_latin1Char_mem h

theorem meant_of_nul_mem {name : List UInt8} (h : 0 ∈ name) :
    meant name = .file (.ofList (Text.latin1List name)) := by
  have hterminal : name ≠ Text.codes "TTY:".toList := fun hname => absurd (hname ▸ h) (by decide)
  have hpool : name ≠ Text.codes "TeXformats:TEX.POOL".toList := fun hname => absurd (hname ▸ h) (by decide)
  rw [meant, if_neg hterminal, if_neg hpool]

theorem parse_padded {name : List UInt8} (h : Bare (Text.latin1List name)) (marked area : Bool) (spaces nuls : Nat) :
    parse (padded marked area name spaces nuls) = meant name :=
  parse_of_spelled (by rw [latin1List_padded, h.spelled_padded])

theorem parse_wrap {name : List UInt8} (h : Bare (Text.latin1List name)) (hbrace : 0x7D ∉ name)
    (hquote : 0x22 ∉ name) (marked area : Bool) (spaces : Nat) (w : Wrapper) (rest : List UInt8) :
    parse (w.wrap (padded marked area name spaces 0) rest) = meant name := by
  refine parse_of_spelled ?_
  rw [latin1List_wrap, latin1List_padded, List.replicate_zero, List.append_nil]
  exact h.spelled_wrap (notMem_latin1List hbrace) (notMem_latin1List hquote) ..

theorem parse_wrap_nuls {name : List UInt8} (h : Bare (Text.latin1List name)) (hbrace : 0x7D ∉ name)
    (hquote : 0x22 ∉ name) (marked area : Bool) (spaces : Nat) {nuls : Nat} (hnuls : 0 < nuls) (w : Wrapper)
    (rest : List UInt8) :
    parse (w.wrap (padded marked area name spaces nuls) rest) =
      .file (.ofList (Text.latin1List (name ++ List.replicate spaces 0x20 ++ List.replicate nuls 0))) := by
  have hnul : (0 : UInt8) ∈ name ++ List.replicate spaces 0x20 ++ List.replicate nuls 0 :=
    List.mem_append_right _ (List.mem_replicate.mpr ⟨hnuls.ne', rfl⟩)
  rw [← meant_of_nul_mem hnul]
  refine parse_of_spelled ?_
  rw [latin1List_wrap, latin1List_padded, Text.latin1List_append, Text.latin1List_append, Text.latin1List_replicate,
    Text.latin1List_replicate, List.append_assoc (front marked area ++ _), List.append_assoc (Text.latin1List name)]
  exact h.spelled_wrap_nuls (notMem_latin1List hbrace) (notMem_latin1List hquote) _ _ _ hnuls _ _

/-- **The spellings of a name mean the same.**  Behind a marker and a font area, before spaces and
NULs, and in braces or quotes with anything after them, a bare name stands for what it means.  In
braces or quotes only spaces are padding, and NULs there make the name of another file. -/
theorem spellings_agree {name : List UInt8} (h : Bare (Text.latin1List name)) (hbrace : 0x7D ∉ name)
    (hquote : 0x22 ∉ name) (marked area : Bool) (spaces nuls : Nat) (w : Wrapper) (rest : List UInt8) :
    parse (padded marked area name spaces nuls) = meant name ∧
      parse (w.wrap (padded marked area name spaces 0) rest) = meant name ∧
      (0 < nuls → parse (w.wrap (padded marked area name spaces nuls) rest) =
        .file (.ofList (Text.latin1List (name ++ List.replicate spaces 0x20 ++ List.replicate nuls 0)))) :=
  ⟨parse_padded h marked area spaces nuls, parse_wrap h hbrace hquote marked area spaces w rest,
    fun hnuls => parse_wrap_nuls h hbrace hquote marked area spaces hnuls w rest⟩

/-- The alias of the string pool, behind everything that may stand before a name and in both kinds
of marks, with marks and NULs after them. -/
theorem spellings_agree_pool :
    let name := Text.codes "TeXformats:TEX.POOL".toList
    let rest := Text.codes "\x7d\"*\x00".toList
    Bare (Text.latin1List name) ∧ 0x7D ∉ name ∧ 0x22 ∉ name ∧
      parse (padded true true name 3 2) = .file "tex.pool" ∧
      parse (Wrapper.both.wrap (padded true true name 3 0) rest) = .file "tex.pool" := by
  intro name rest
  have h : Bare (Text.latin1List name) := by decide
  have hbrace : 0x7D ∉ name := by decide
  have hquote : 0x22 ∉ name := by decide
  have hmeant : meant name = .file "tex.pool" := by decide
  obtain ⟨hpadded, hwrapped, -⟩ := spellings_agree h hbrace hquote true true 3 2 .both rest
  exact ⟨h, hbrace, hquote, hpadded.trans hmeant, hwrapped.trans hmeant⟩

/-- A NUL before the closing brace is not taken off. -/
theorem nul_in_braces_kept :
    let name := Text.codes "a".toList
    Bare (Text.latin1List name) ∧ 0x7D ∉ name ∧ 0x22 ∉ name ∧ meant name = .file "a" ∧
      parse (padded false false name 0 1) = .file "a" ∧
      parse (Wrapper.braces.wrap (padded false false name 0 1) []) = .file "a\x00" :=
  ⟨by decide, by decide, by decide, by decide, by decide, by decide⟩

/-! ## Names in UTF-8 -/

theorem Bare.misread (h : Bare cs) : Bare (Text.misread cs) where
  unmarked c hc := by
    refine ⟨?_, ?_, ?_⟩
    · rintro rfl
      exact (h.unmarked _ (Text.head?_misread hc rfl)).1 rfl
    · rintro rfl
      exact (h.unmarked _ (Text.head?_misread hc rfl)).2.1 rfl
    · rintro rfl
      exact (h.unmarked _ (Text.head?_misread hc rfl)).2.2 rfl
  area hfront := h.area (Text.prefix_of_misread (List.all_eq_true.mp (by decide)) hfront)
  unpadded c hc := by
    refine ⟨?_, ?_⟩
    · rintro rfl
      exact (h.unpadded _ (Text.getLast?_misread hc rfl)).1 rfl
    · rintro rfl
      exact (h.unpadded _ (Text.getLast?_misread hc rfl)).2 rfl

/-- A name in UTF-8 stands for the file with the name that is seen in it. -/
theorem parse_utf8 {name : String} (h : Bare name.toList) (hterminal : name ≠ "TTY:")
    (hpool : name ≠ "TeXformats:TEX.POOL") (spaces : Nat) :
    parse (name.toUTF8.data.toList ++ List.replicate spaces 0x20) = .file (.ofList (Text.misread name.toList)) := by
  have hpadded : padded false false name.toUTF8.data.toList spaces 0 =
      name.toUTF8.data.toList ++ List.replicate spaces 0x20 := by
    simp [padded, front_false_false, Text.codes]
  have hnotTerminal : name.toUTF8.data.toList ≠ Text.codes "TTY:".toList :=
    mt (Text.eq_of_bytes_eq_codes (List.all_eq_true.mp (by decide))) hterminal
  have hnotPool : name.toUTF8.data.toList ≠ Text.codes "TeXformats:TEX.POOL".toList :=
    mt (Text.eq_of_bytes_eq_codes (List.all_eq_true.mp (by decide))) hpool
  have hseen : Bare (Text.latin1List name.toUTF8.data.toList) := Text.latin1List_bytes name ▸ h.misread
  rw [← hpadded, parse_padded hseen, meant, if_neg hnotTerminal, if_neg hnotPool, Text.latin1List_bytes]

/-- **A bare name in UTF-8 stands for itself exactly if it is in ASCII.** -/
theorem parse_utf8_eq_iff {name : String} (h : Bare name.toList) (hterminal : name ≠ "TTY:")
    (hpool : name ≠ "TeXformats:TEX.POOL") (spaces : Nat) :
    parse (name.toUTF8.data.toList ++ List.replicate spaces 0x20) = .file name ↔
      ∀ c ∈ name.toList, Text.isAscii c := by
  rw [parse_utf8 h hterminal hpool, ← Text.misread_eq_self_iff, FileName.file.injEq, ← String.toList_inj,
    String.toList_ofList]

end Galley.FileName
