import Galley.Json.Printer
import Galley.Proofs.Json.Literals

/-! # The texts of a JSON value

A value may be written in many ways: with white space around every token, with an exponent
that is introduced by either letter and may have a plus sign, with characters escaped or not.
`Writes v s` says that `s` is one of them, by JSON's grammar and without the parser.

The parser reads each of them as the value (`parse_of_document`).  What keeps a number from running
on is that only white space, a comma or a closing bracket comes after it (`Ends`); and the fuel
suffices because each level of the value spends two at most and has two bytes (`isRead`).  The
printer writes one of the texts (`writes_encode_text`, `writes_encode_array` and
`writes_encode_record`). -/
namespace Galley.Json
open Literal

/-! ## Tokens -/

/-- The byte is white space. -/
def isSpace (b : UInt8) : Bool := b == 0x20 || b == 0x0A || b == 0x0D || b == 0x09

/-- White space. -/
def IsSpace (s : List UInt8) : Prop := ∀ b ∈ s, isSpace b

theorem skipSpace_append {space : List UInt8} (h : IsSpace space) (s : List UInt8) :
    skipSpace (space ++ s) = skipSpace s :=
  List.dropWhile_append_of_pos h

theorem skipSpace_of_isSpace {space : List UInt8} (h : IsSpace space) : skipSpace space = [] := by
  have hnil := skipSpace_append h []
  rwa [List.append_nil] at hnil

theorem skipSpace_cons {b : UInt8} (h : isSpace b = false) (s : List UInt8) : skipSpace (b :: s) = b :: s :=
  List.dropWhile_cons_of_neg (by simpa [isSpace] using h)

theorem skipSpace_append_cons {space : List UInt8} (h : IsSpace space) {b : UInt8} (hb : isSpace b = false)
    (s : List UInt8) : skipSpace (space ++ b :: s) = b :: s := by
  rw [skipSpace_append h, skipSpace_cons hb]

/-- What follows a number does not go on with it. -/
def Ends (rest : List UInt8) : Prop := ∀ b ∈ rest.head?, ¬ isDigit b ∧ b ≠ 0x2E ∧ b ≠ 0x65 ∧ b ≠ 0x45

theorem ends_append {space rest : List UInt8} (h : IsSpace space) (hrest : Ends rest) : Ends (space ++ rest) := by
  cases space with
  | nil => exact hrest
  | cons b space =>
    rintro _ ⟨⟩
    have hb : isSpace b := h b List.mem_cons_self
    simp only [isSpace, Bool.or_eq_true, beq_iff_eq] at hb
    rcases hb with ((rfl | rfl) | rfl) | rfl <;> decide

theorem ends_cons {b : UInt8} (h : b = 0x2C ∨ b = 0x5D ∨ b = 0x7D) (rest : List UInt8) : Ends (b :: rest) := by
  rintro _ ⟨⟩
  rcases h with rfl | rfl | rfl <;> decide

theorem ends_nil : Ends [] := nofun

/-! ## Numbers -/

/-- Decimal digits, at least one. -/
def IsDigits (digits : List Nat) : Prop := digits ≠ [] ∧ ∀ d ∈ digits, d < 10

/-- The text of a fraction. -/
inductive WritesFraction : Option (List Nat) → List UInt8 → Prop where
  | absent : WritesFraction none []
  | present {digits : List Nat} (h : IsDigits digits) :
      WritesFraction (some digits) (0x2E :: Number.digitBytes digits)

/-- The signs of an exponent and whether they are negative. -/
def exponentSigns : List (List UInt8 × Bool) := [([], false), ([0x2B], false), ([0x2D], true)]

/-- A text of an exponent. -/
inductive WritesExponent : Option (Bool × List Nat) → List UInt8 → Prop where
  | absent : WritesExponent none []
  | present {letter : UInt8} {sign : List UInt8} {negative : Bool} {digits : List Nat}
      (hletter : letter = 0x65 ∨ letter = 0x45) (hsign : (sign, negative) ∈ exponentSigns) (h : IsDigits digits) :
      WritesExponent (some (negative, digits)) (letter :: (sign ++ Number.digitBytes digits))

/-- A text of a number.  No zero stands in front of other digits. -/
inductive WritesNumber : Number → List UInt8 → Prop where
  | mk {negative : Bool} {whole : List Nat} {fraction : Option (List Nat)} {exponent : Option (Bool × List Nat)}
      {f e : List UInt8} (hwhole : IsDigits whole) (hzero : whole.head? = some 0 → whole = [0])
      (hf : WritesFraction fraction f) (he : WritesExponent exponent e) :
      WritesNumber
        { negative, whole, fraction := fraction.getD [], exponent,
          isWhole := fraction.isNone && exponent.isNone }
        ((if negative then [0x2D] else []) ++ (Number.digitBytes whole ++ (f ++ e)))

theorem isDigit_digitByte : ∀ d < 10, isDigit (UInt8.ofNat (48 + d)) ∧ (UInt8.ofNat (48 + d)).toNat - 48 = d := by
  decide

theorem digitRun_append {digits : List Nat} {rest : List UInt8} (h : ∀ d ∈ digits, d < 10)
    (hrest : ∀ b ∈ rest.head?, ¬ isDigit b) : digitRun (Number.digitBytes digits ++ rest) = (digits, rest) := by
  have hbytes : ∀ b ∈ Number.digitBytes digits, isDigit b := by
    intro b hb
    obtain ⟨d, hd, rfl⟩ := List.mem_map.mp hb
    exact (isDigit_digitByte d (h d hd)).1
  have hback : (Number.digitBytes digits).map (fun b => b.toNat - 48) = digits := by
    rw [Number.digitBytes, List.map_map, List.map_congr_left (g := id), List.map_id]
    exact fun d hd => (isDigit_digitByte d (h d hd)).2
  have hstop : rest.takeWhile isDigit = [] ∧ rest.dropWhile isDigit = rest := by
    cases rest with
    | nil => exact ⟨rfl, rfl⟩
    | cons b rest =>
      have hb : ¬ isDigit b := hrest b rfl
      exact ⟨List.takeWhile_cons_of_neg hb, List.dropWhile_cons_of_neg hb⟩
  rw [digitRun, List.takeWhile_append_of_pos hbytes, List.dropWhile_append_of_pos hbytes, hstop.1, hstop.2,
    List.append_nil, hback]

theorem fraction_append {o : Option (List Nat)} {f rest : List UInt8} (h : WritesFraction o f)
    (hrest : ∀ b ∈ rest.head?, ¬ isDigit b ∧ b ≠ 0x2E) : fraction (f ++ rest) = some (o, rest) := by
  cases h with
  | absent =>
    rw [List.nil_append, fraction]
    rintro rest rfl
    exact absurd rfl (hrest _ rfl).2
  | @present digits hdigits =>
    have hrun := digitRun_append hdigits.2 fun b hb => (hrest b hb).1
    rw [List.cons_append, fraction, hrun]
    cases digits with
    | nil => exact absurd rfl hdigits.1
    | cons d digits => rfl

theorem exponent_append {o : Option (Bool × List Nat)} {e rest : List UInt8} (h : WritesExponent o e)
    (hrest : Ends rest) : exponent (e ++ rest) = some (o, rest) := by
  cases h with
  | absent =>
    rw [List.nil_append]
    cases rest with
    | nil => rfl
    | cons b rest =>
      obtain ⟨-, -, hlower, hupper⟩ := hrest b rfl
      simp [exponent, hlower, hupper]
  | @present letter sign negative digits hletter hsign hdigits =>
    have hrun := digitRun_append hdigits.2 fun b hb => (hrest b hb).1
    obtain ⟨d, more, rfl⟩ := List.exists_cons_of_ne_nil hdigits.1
    have hdigit := (isDigit_digitByte d (hdigits.2 d List.mem_cons_self)).1
    have hbody : ∃ b tail, Number.digitBytes (d :: more) ++ rest = b :: tail ∧ isDigit b := ⟨_, _, rfl, hdigit⟩
    obtain ⟨b, tail, hbody, hb⟩ := hbody
    have hplus : b ≠ 0x2B := by
      rintro rfl
      exact absurd hb (by decide)
    have hminus : b ≠ 0x2D := by
      rintro rfl
      exact absurd hb (by decide)
    rw [hbody] at hrun
    rw [List.cons_append, List.append_assoc, hbody]
    simp only [exponentSigns, List.mem_cons, List.not_mem_nil, or_false, Prod.mk.injEq] at hsign
    rcases hsign with ⟨rfl, rfl⟩ | ⟨rfl, rfl⟩ | ⟨rfl, rfl⟩ <;> rcases hletter with rfl | rfl <;>
      simp [exponent, hrun, hplus, hminus]

theorem head_exponent {o : Option (Bool × List Nat)} {e rest : List UInt8} (h : WritesExponent o e)
    (hrest : Ends rest) : ∀ b ∈ (e ++ rest).head?, ¬ isDigit b ∧ b ≠ 0x2E := by
  cases h with
  | absent => exact fun b hb => ⟨(hrest b hb).1, (hrest b hb).2.1⟩
  | present hletter _ _ =>
    rintro _ ⟨⟩
    rcases hletter with rfl | rfl <;> decide

theorem head_fraction {o : Option (List Nat)} {f next : List UInt8} (h : WritesFraction o f)
    (hnext : ∀ b ∈ next.head?, ¬ isDigit b ∧ b ≠ 0x2E) : ∀ b ∈ (f ++ next).head?, ¬ isDigit b := by
  cases h with
  | absent => exact fun b hb => (hnext b hb).1
  | present _ =>
    rintro _ ⟨⟩
    decide

/-- **A number is read up to its end**, whatever its sign. -/
theorem unsigned_append {n : Number} {s rest : List UInt8} (h : WritesNumber n s) (hrest : Ends rest) :
    ∃ b tail, s = (if n.negative then [0x2D] else []) ++ b :: tail ∧ isDigit b ∧
      unsigned n.negative (b :: tail ++ rest) = some (.number n, rest) := by
  cases h with
  | @mk negative whole fraction exponent f e hwhole hzero hf he =>
    have hnext := head_exponent he hrest
    have hrun := digitRun_append hwhole.2 (head_fraction hf hnext)
    have hcheck : ¬ (whole.isEmpty || (whole.head? == some 0 && whole.length > 1)) = true := by
      intro hbad
      simp only [Bool.or_eq_true, List.isEmpty_iff, Bool.and_eq_true, beq_iff_eq, decide_eq_true_eq] at hbad
      rcases hbad with hnil | ⟨hhead, hlength⟩
      · exact hwhole.1 hnil
      · rw [hzero hhead] at hlength
        exact absurd hlength (by decide)
    obtain ⟨d, more, hcons⟩ := List.exists_cons_of_ne_nil hwhole.1
    have hdigit := (isDigit_digitByte d (hwhole.2 d (hcons ▸ List.mem_cons_self))).1
    refine ⟨_, Number.digitBytes more ++ (f ++ e), ?_, hdigit, ?_⟩
    · rw [hcons]
      rfl
    · have htext : UInt8.ofNat (48 + d) :: (Number.digitBytes more ++ (f ++ e)) ++ rest =
          Number.digitBytes whole ++ (f ++ (e ++ rest)) := by
        rw [hcons]
        simp [Number.digitBytes]
      rw [htext, unsigned, hrun]
      simp only [hcheck, if_false, fraction_append hf hnext, exponent_append he hrest, Option.bind_eq_bind,
        Option.bind_some, Bool.false_eq_true]

/-! ## Values -/

/-- A text of the kind `P` with white space around it. -/
def Spaced (P : List UInt8 → Prop) (s : List UInt8) : Prop :=
  ∃ before t after, IsSpace before ∧ P t ∧ IsSpace after ∧ s = before ++ (t ++ after)

/-- The text of a literal. -/
def WritesLiteral (l : Literal) (s : List UInt8) : Prop := IsBody l.body ∧ s = l.encode

mutual
/-- The bytes are a text of the value. -/
def Writes : Json → List UInt8 → Prop
  | null, s => s = [0x6E, 0x75, 0x6C, 0x6C]
  | bool true, s => s = [0x74, 0x72, 0x75, 0x65]
  | bool false, s => s = [0x66, 0x61, 0x6C, 0x73, 0x65]
  | number n, s => WritesNumber n s
  | string l, s => WritesLiteral l s
  | array items, s => ∃ inner, WritesItems items inner ∧ s = 0x5B :: (inner ++ [0x5D])
  | object members, s => ∃ inner, WritesMembers members inner ∧ s = 0x7B :: (inner ++ [0x7D])

/-- The bytes are a text of the items, with commas between them. -/
def WritesItems : List Json → List UInt8 → Prop
  | [], s => IsSpace s
  | [v], s => Spaced (Writes v) s
  | v :: more, s => ∃ t u, Spaced (Writes v) t ∧ WritesItems more u ∧ s = t ++ 0x2C :: u

/-- The bytes are a text of the members, with a colon in each and commas between them. -/
def WritesMembers : List (Literal × Json) → List UInt8 → Prop
  | [], s => IsSpace s
  | [(name, v)], s => ∃ t u, Spaced (WritesLiteral name) t ∧ Spaced (Writes v) u ∧ s = t ++ 0x3A :: u
  | (name, v) :: more, s => ∃ t u w, Spaced (WritesLiteral name) t ∧ Spaced (Writes v) u ∧ WritesMembers more w ∧
      s = t ++ 0x3A :: (u ++ 0x2C :: w)
end

/-- The bytes are a document that holds the value. -/
def Document (v : Json) : List UInt8 → Prop := Spaced (Writes v)

/-! ## What the printer writes -/

theorem spaced_of {P : List UInt8 → Prop} {s : List UInt8} (h : P s) : Spaced P s :=
  ⟨[], s, [], nofun, h, nofun, by rw [List.nil_append, List.append_nil]⟩

theorem writesLiteral_ofString (s : String) : WritesLiteral (.ofString s) (Literal.ofString s).encode :=
  ⟨isBody_ofString s, rfl⟩

theorem writes_encode_text (s : String) : Writes (text s) (text s).encode := writesLiteral_ofString s

theorem writesItems_encodeItems {items : List Json} (h : ∀ v ∈ items, Writes v v.encode) :
    WritesItems items (encodeItems items) := by
  induction items with
  | nil => exact nofun
  | cons v more ih =>
    obtain ⟨hv, hmore⟩ := List.forall_mem_cons.mp h
    cases more with
    | nil => exact spaced_of hv
    | cons w more => exact ⟨_, _, spaced_of hv, ih hmore, rfl⟩

theorem writes_encode_array {items : List Json} (h : ∀ v ∈ items, Writes v v.encode) :
    Writes (array items) (array items).encode :=
  ⟨_, writesItems_encodeItems h, rfl⟩

theorem writesMembers_encodeMembers {members : List (String × Json)} (h : ∀ m ∈ members, Writes m.2 m.2.encode) :
    let written := members.map fun m => (Literal.ofString m.1, m.2)
    WritesMembers written (encodeMembers written) := by
  intro written
  induction members with
  | nil => exact nofun
  | cons m more ih =>
    obtain ⟨hm, hmore⟩ := List.forall_mem_cons.mp h
    have hname := spaced_of (writesLiteral_ofString m.1)
    cases more with
    | nil => exact ⟨_, _, hname, spaced_of hm, rfl⟩
    | cons m' more =>
      refine ⟨_, _, _, hname, spaced_of hm, ih hmore, ?_⟩
      simp only [written, List.map_cons, encodeMembers, List.append_assoc, List.cons_append]

theorem writes_encode_record {members : List (String × Json)} (h : ∀ m ∈ members, Writes m.2 m.2.encode) :
    Writes (record members) (record members).encode :=
  ⟨_, writesMembers_encodeMembers h, rfl⟩

/-! ## Reading them -/

theorem isDigit_cases {b : UInt8} (h : isDigit b) : isSpace b = false ∧ b ≠ 0x5D := by
  simp only [isDigit, isSpace] at h ⊢
  grind

/-- Every text of a value starts with a byte that is not white space and closes no array. -/
theorem head_of_writes {v : Json} {s : List UInt8} (h : Writes v s) :
    ∃ b tail, s = b :: tail ∧ isSpace b = false ∧ b ≠ 0x5D := by
  cases v with
  | null => exact ⟨_, _, h, by decide, by decide⟩
  | bool value => cases value <;> exact ⟨_, _, h, by decide, by decide⟩
  | number n =>
    obtain ⟨b, tail, hs, hb, -⟩ := unsigned_append h ends_nil
    cases hsign : n.negative with
    | true =>
      rw [hsign, if_pos rfl] at hs
      exact ⟨_, _, hs, by decide, by decide⟩
    | false =>
      rw [hsign, if_neg Bool.false_ne_true] at hs
      exact ⟨_, _, hs, isDigit_cases hb⟩
  | string l => exact ⟨_, _, h.2, by decide, by decide⟩
  | array items =>
    obtain ⟨inner, -, hs⟩ := h
    exact ⟨_, _, hs, by decide, by decide⟩
  | object members =>
    obtain ⟨inner, -, hs⟩ := h
    exact ⟨_, _, hs, by decide, by decide⟩

section
variable (fuel : Nat) (s : List UInt8)

theorem value_append_space {space : List UInt8} (h : IsSpace space) : value fuel (space ++ s) = value fuel s := by
  cases fuel with
  | zero => rfl
  | succ fuel => rw [value, value, skipSpace_append h]

theorem value_digit {b : UInt8} (h : isDigit b) : value (fuel + 1) (b :: s) = unsigned false (b :: s) := by
  rw [value, skipSpace_cons (isDigit_cases h).1]
  -- no other token starts with a digit
  split <;> first | rfl | (rename_i heq; obtain ⟨rfl, -⟩ := List.cons.inj heq; exact absurd h (by decide))

theorem value_minus : value (fuel + 1) (0x2D :: s) = unsigned true s := rfl

theorem value_quote : value (fuel + 1) (0x22 :: s) =
    (stringBody s).map fun (body, rest) => (.string ⟨body⟩, rest) := rfl

theorem value_emptyArray {space : List UInt8} (h : IsSpace space) :
    value (fuel + 1) (0x5B :: (space ++ 0x5D :: s)) = some (array [], s) := by
  have hskip : skipSpace (space ++ 0x5D :: s) = 0x5D :: s := skipSpace_append_cons h (by decide) _
  rw [value, skipSpace_cons (by decide)]
  simp only [hskip]

theorem value_array (h : ∀ b ∈ (skipSpace s).head?, b ≠ 0x5D) : value (fuel + 1) (0x5B :: s) =
    (items fuel s).map fun (vs, rest) => (.array vs, rest) := by
  rw [value, skipSpace_cons (by decide)]
  simp only
  split
  next hclose => exact absurd rfl (h 0x5D (by rw [hclose]; rfl))
  next => rfl

theorem value_emptyObject {space : List UInt8} (h : IsSpace space) :
    value (fuel + 1) (0x7B :: (space ++ 0x7D :: s)) = some (object [], s) := by
  have hskip : skipSpace (space ++ 0x7D :: s) = 0x7D :: s := skipSpace_append_cons h (by decide) _
  rw [value, skipSpace_cons (by decide)]
  simp only [hskip]

theorem value_object (h : ∀ b ∈ (skipSpace s).head?, b ≠ 0x7D) : value (fuel + 1) (0x7B :: s) =
    (members fuel s).map fun (ms, rest) => (.object ms, rest) := by
  rw [value, skipSpace_cons (by decide)]
  simp only
  split
  next hclose => exact absurd rfl (h 0x7D (by rw [hclose]; rfl))
  next => rfl

end

/-- The parser reads every text of the value as the value. -/
def IsRead (v : Json) : Prop := ∀ ⦃s rest : List UInt8⦄ ⦃fuel : Nat⦄, Writes v s → Ends rest →
  2 * s.length ≤ fuel + 1 → value (fuel + 1) (s ++ rest) = some (v, rest)

/-- The parser reads every text of the items as the items. -/
def AreItemsRead (vs : List Json) : Prop := ∀ ⦃s rest : List UInt8⦄ ⦃fuel : Nat⦄, WritesItems vs s →
  2 * s.length ≤ fuel + 1 → items (fuel + 2) (s ++ 0x5D :: rest) = some (vs, rest)

/-- The parser reads every text of the members as the members. -/
def AreMembersRead (ms : List (Literal × Json)) : Prop := ∀ ⦃s rest : List UInt8⦄ ⦃fuel : Nat⦄, WritesMembers ms s →
  2 * s.length ≤ fuel + 1 → members (fuel + 2) (s ++ 0x7D :: rest) = some (ms, rest)

variable {v : Json} {s rest : List UInt8} {fuel : Nat}

theorem IsRead.spaced (hv : IsRead v) (h : Spaced (Writes v) s) (hrest : Ends rest) (hfuel : 2 * s.length ≤ fuel + 1) :
    ∃ after, IsSpace after ∧ value (fuel + 1) (s ++ rest) = some (v, after ++ rest) := by
  obtain ⟨before, t, after, hbefore, ht, hafter, rfl⟩ := h
  simp only [List.length_append] at hfuel
  refine ⟨after, hafter, ?_⟩
  rw [List.append_assoc, value_append_space _ _ hbefore, List.append_assoc]
  exact hv ht (ends_append hafter hrest) (by omega)

theorem length_pos_of_spaced (h : Spaced (Writes v) s) : 0 < s.length := by
  obtain ⟨before, t, after, -, ht, -, rfl⟩ := h
  obtain ⟨b, tail, rfl, -⟩ := head_of_writes ht
  simp only [List.length_append, List.length_cons]
  omega

theorem head_of_spaced (h : Spaced (Writes v) s) (rest : List UInt8) :
    ∀ b ∈ (skipSpace (s ++ rest)).head?, b ≠ 0x5D := by
  obtain ⟨before, t, after, hbefore, ht, -, rfl⟩ := h
  obtain ⟨b, tail, rfl, hb, hclose⟩ := head_of_writes ht
  rw [List.append_assoc, skipSpace_append hbefore]
  simp only [List.cons_append, skipSpace_cons hb]
  rintro _ ⟨⟩
  exact hclose

theorem isRead_number (n : Number) : IsRead (.number n) := by
  intro s rest fuel h hrest _
  obtain ⟨b, tail, rfl, hb, hnumber⟩ := unsigned_append h hrest
  cases hsign : n.negative with
  | true => rwa [if_pos rfl, List.append_assoc, List.singleton_append, value_minus, ← hsign]
  | false => rwa [if_neg Bool.false_ne_true, List.nil_append, List.cons_append, value_digit _ _ hb, ← hsign]

theorem isRead_string (l : Literal) : IsRead (.string l) := by
  rintro _ rest fuel ⟨hbody, rfl⟩ _ _
  have htext : l.encode ++ rest = 0x22 :: (l.body ++ 0x22 :: rest) := by simp [Literal.encode]
  rw [htext, value_quote, stringBody_append hbody, Option.map_some]

theorem isRead_emptyArray : IsRead (.array []) := by
  rintro _ rest fuel ⟨inner, hspace, rfl⟩ _ _
  rw [List.cons_append, List.append_assoc, List.singleton_append]
  exact value_emptyArray fuel rest hspace

theorem isRead_emptyObject : IsRead (.object []) := by
  rintro _ rest fuel ⟨inner, hspace, rfl⟩ _ _
  rw [List.cons_append, List.append_assoc, List.singleton_append]
  exact value_emptyObject fuel rest hspace

theorem areItemsRead_single (hv : IsRead v) : AreItemsRead [v] := by
  intro s rest fuel h hfuel
  obtain ⟨after, hafter, hvalue⟩ := hv.spaced h (ends_cons (.inr (.inl rfl)) rest) hfuel
  have hskip : skipSpace (after ++ 0x5D :: rest) = 0x5D :: rest := skipSpace_append_cons hafter (by decide) _
  rw [items, hvalue]
  simp only [Option.bind_eq_bind, Option.bind_some, hskip]

theorem areItemsRead_cons {w : Json} {more : List Json} (hv : IsRead v) (hmore : AreItemsRead (w :: more)) :
    AreItemsRead (v :: w :: more) := by
  rintro _ rest fuel ⟨t, u, ht, hu, rfl⟩ hfuel
  have hpos := length_pos_of_spaced ht
  simp only [List.length_append, List.length_cons] at hfuel
  obtain ⟨fuel, rfl⟩ := Nat.exists_eq_add_of_le' (show 1 ≤ fuel by omega)
  obtain ⟨after, hafter, hvalue⟩ :=
    hv.spaced ht (ends_cons (.inl rfl) (u ++ 0x5D :: rest)) (show 2 * t.length ≤ fuel + 1 + 1 by omega)
  have hskip : skipSpace (after ++ 0x2C :: (u ++ 0x5D :: rest)) = 0x2C :: (u ++ 0x5D :: rest) :=
    skipSpace_append_cons hafter (by decide) _
  rw [items, List.append_assoc, List.cons_append, hvalue]
  have hitems : items (fuel + 2) (u ++ 0x5D :: rest) = some (w :: more, rest) := hmore hu (by omega)
  simp only [Option.bind_eq_bind, Option.bind_some, hskip, hitems, Option.map_some]

/-- What comes behind the name and the value of a member. -/
theorem members_append {name : Literal} {t x y : List UInt8} (hname : Spaced (WritesLiteral name) t)
    (hvalue : value (fuel + 1) x = some (v, y)) : members (fuel + 2) (t ++ 0x3A :: x) =
      match skipSpace y with
      | 0x2C :: rest => (members (fuel + 1) rest).map fun (ms, rest) => ((name, v) :: ms, rest)
      | 0x7D :: rest => some ([(name, v)], rest)
      | _ => none := by
  obtain ⟨before, _, after, hbefore, ⟨hbody, rfl⟩, hafter, rfl⟩ := hname
  have hquote : skipSpace (before ++ (name.encode ++ after) ++ 0x3A :: x) =
      0x22 :: (name.body ++ 0x22 :: (after ++ 0x3A :: x)) := by
    have htext : name.encode ++ after ++ 0x3A :: x = 0x22 :: (name.body ++ 0x22 :: (after ++ 0x3A :: x)) := by
      simp [Literal.encode]
    rw [List.append_assoc, htext, skipSpace_append_cons hbefore (by decide)]
  have hcolon : skipSpace (after ++ 0x3A :: x) = 0x3A :: x := skipSpace_append_cons hafter (by decide) _
  rw [members, hquote]
  change (stringBody _).bind _ = _
  rw [stringBody_append hbody, Option.bind_some]
  simp only [hcolon]
  rw [hvalue]
  rfl

theorem areMembersRead_single {name : Literal} (hv : IsRead v) : AreMembersRead [(name, v)] := by
  rintro _ rest fuel ⟨t, u, ht, hu, rfl⟩ hfuel
  simp only [List.length_append, List.length_cons] at hfuel
  obtain ⟨after, hafter, hvalue⟩ :=
    hv.spaced hu (ends_cons (.inr (.inr rfl)) rest) (show 2 * u.length ≤ fuel + 1 by omega)
  have hskip : skipSpace (after ++ 0x7D :: rest) = 0x7D :: rest := skipSpace_append_cons hafter (by decide) _
  rw [List.append_assoc, List.cons_append, members_append ht hvalue, hskip]
  rfl

theorem areMembersRead_cons {name : Literal} {m : Literal × Json} {more : List (Literal × Json)} (hv : IsRead v)
    (hmore : AreMembersRead (m :: more)) : AreMembersRead ((name, v) :: m :: more) := by
  rintro _ rest fuel ⟨t, u, w, ht, hu, hw, rfl⟩ hfuel
  have hpos := length_pos_of_spaced hu
  simp only [List.length_append, List.length_cons] at hfuel
  obtain ⟨fuel, rfl⟩ := Nat.exists_eq_add_of_le' (show 1 ≤ fuel by omega)
  obtain ⟨after, hafter, hvalue⟩ :=
    hv.spaced hu (ends_cons (.inl rfl) (w ++ 0x7D :: rest)) (show 2 * u.length ≤ fuel + 1 + 1 by omega)
  have hskip : skipSpace (after ++ 0x2C :: (w ++ 0x7D :: rest)) = 0x2C :: (w ++ 0x7D :: rest) :=
    skipSpace_append_cons hafter (by decide) _
  have htext : t ++ 0x3A :: (u ++ 0x2C :: w) ++ 0x7D :: rest =
      t ++ 0x3A :: (u ++ 0x2C :: (w ++ 0x7D :: rest)) := by simp
  rw [htext, members_append ht hvalue, hskip]
  simp only [hmore hw (show 2 * w.length ≤ fuel + 1 by omega), Option.map_some]

/-- Items do not start by closing their array. -/
theorem head_of_items {vs : List Json} (hne : vs ≠ []) (h : WritesItems vs s) (rest : List UInt8) :
    ∀ b ∈ (skipSpace (s ++ rest)).head?, b ≠ 0x5D := by
  match vs, hne, h with
  | [v], _, h => exact head_of_spaced h rest
  | v :: _ :: _, _, ⟨t, u, ht, _, hs⟩ =>
    rw [hs, List.append_assoc]
    exact head_of_spaced ht _

theorem head_of_name {name : Literal} (h : Spaced (WritesLiteral name) s) (rest : List UInt8) :
    ∀ b ∈ (skipSpace (s ++ rest)).head?, b ≠ 0x7D := by
  obtain ⟨before, _, after, hbefore, ⟨-, rfl⟩, -, rfl⟩ := h
  rw [List.append_assoc, skipSpace_append hbefore]
  simp only [Literal.encode, List.cons_append, skipSpace_cons (show isSpace 0x22 = false by decide)]
  rintro _ ⟨⟩
  decide

/-- Members do not start by closing their object. -/
theorem head_of_members {ms : List (Literal × Json)} (hne : ms ≠ []) (h : WritesMembers ms s) (rest : List UInt8) :
    ∀ b ∈ (skipSpace (s ++ rest)).head?, b ≠ 0x7D := by
  match ms, hne, h with
  | [(name, v)], _, ⟨t, u, ht, _, hs⟩ =>
    rw [hs, List.append_assoc]
    exact head_of_name ht _
  | (name, v) :: _ :: _, _, ⟨t, u, w, ht, _, _, hs⟩ =>
    rw [hs, List.append_assoc]
    exact head_of_name ht _

theorem isRead_array {vs : List Json} (hne : vs ≠ []) (hread : AreItemsRead vs) : IsRead (.array vs) := by
  rintro _ rest fuel ⟨inner, hitems, rfl⟩ _ hfuel
  simp only [List.length_cons, List.length_append, List.length_nil] at hfuel
  obtain ⟨fuel, rfl⟩ := Nat.exists_eq_add_of_le' (show 2 ≤ fuel by omega)
  rw [List.cons_append, List.append_assoc, List.singleton_append, value_array _ _ (head_of_items hne hitems _),
    hread hitems (by omega), Option.map_some]

theorem isRead_object {ms : List (Literal × Json)} (hne : ms ≠ []) (hread : AreMembersRead ms) :
    IsRead (.object ms) := by
  rintro _ rest fuel ⟨inner, hmembers, rfl⟩ _ hfuel
  simp only [List.length_cons, List.length_append, List.length_nil] at hfuel
  obtain ⟨fuel, rfl⟩ := Nat.exists_eq_add_of_le' (show 2 ≤ fuel by omega)
  rw [List.cons_append, List.append_assoc, List.singleton_append, value_object _ _ (head_of_members hne hmembers _),
    hread hmembers (by omega), Option.map_some]

mutual
/-- **The parser reads every text of a value as the value.** -/
theorem isRead : ∀ v : Json, IsRead v
  | null => fun _ _ _ h _ _ => by rw [h]; rfl
  | bool true => fun _ _ _ h _ _ => by rw [h]; rfl
  | bool false => fun _ _ _ h _ _ => by rw [h]; rfl
  | number n => isRead_number n
  | string l => isRead_string l
  | array [] => isRead_emptyArray
  | array (v :: vs) => isRead_array (List.cons_ne_nil v vs) (areItemsRead (v :: vs) (List.cons_ne_nil v vs))
  | object [] => isRead_emptyObject
  | object (m :: ms) => isRead_object (List.cons_ne_nil m ms) (areMembersRead (m :: ms) (List.cons_ne_nil m ms))

theorem areItemsRead : ∀ vs : List Json, vs ≠ [] → AreItemsRead vs
  | [], hne => absurd rfl hne
  | [v], _ => areItemsRead_single (isRead v)
  | v :: w :: more, _ => areItemsRead_cons (isRead v) (areItemsRead (w :: more) (List.cons_ne_nil w more))

theorem areMembersRead : ∀ ms : List (Literal × Json), ms ≠ [] → AreMembersRead ms
  | [], hne => absurd rfl hne
  | [(_, v)], _ => areMembersRead_single (isRead v)
  | (_, v) :: m :: more, _ => areMembersRead_cons (isRead v) (areMembersRead (m :: more) (List.cons_ne_nil m more))
end

/-- **A document is read as the value that it holds.** -/
theorem parse_of_document (h : Document v s) : parse s = some v := by
  obtain ⟨after, hafter, hvalue⟩ := (isRead v).spaced h ends_nil (show 2 * s.length ≤ 2 * s.length + 1 + 1 by omega)
  rw [List.append_nil, List.append_nil] at hvalue
  rw [parse, hvalue]
  simp only [Option.bind_eq_bind, Option.bind_some, skipSpace_of_isSpace hafter, List.isEmpty_nil, if_true]

end Galley.Json
