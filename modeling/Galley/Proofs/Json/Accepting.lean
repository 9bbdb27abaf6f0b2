import Galley.Proofs.Json.Grammar
import Mathlib.Data.List.TakeWhile

/-! # What the parser accepts

The parser accepts no more than the grammar.  Each of its readers takes a text of the kind it is
for off the front of its input, and says what that is a text of: the leaves
(`isBody_of_stringBody`, `writes_of_unsigned`), and with any fuel, by induction on it, the values, items
and members (`reads`).

A document is therefore read as a value exactly if it is a text of the value
(`parse_eq_some_iff`). -/
namespace Galley.Json
open Literal

/-! ## Leaves -/

theorem isBody_of_stringBody {s body rest : List UInt8} (h : stringBody s = some (body, rest)) :
    IsBody body ∧ s = body ++ 0x22 :: rest := by
  fun_induction stringBody s generalizing body rest with
  | case1 => cases h
  | case2 s =>
    obtain ⟨rfl, rfl⟩ := Prod.mk.inj (Option.some.inj h)
    exact ⟨.nil, rfl⟩
  | case3 a b c d s hhex ih =>
    obtain ⟨⟨front, rest⟩, hfront, heq⟩ := Option.map_eq_some_iff.mp h
    obtain ⟨rfl, rfl⟩ := Prod.mk.inj heq
    obtain ⟨hbody, rfl⟩ := ih hfront
    simp only [Bool.and_eq_true] at hhex
    obtain ⟨⟨⟨ha, hb⟩, hc⟩, hd⟩ := hhex
    exact ⟨.unicode ha hb hc hd hbody, rfl⟩
  | case4 => cases h
  | case5 b s _ hshort ih =>
    obtain ⟨⟨front, rest⟩, hfront, heq⟩ := Option.map_eq_some_iff.mp h
    obtain ⟨rfl, rfl⟩ := Prod.mk.inj heq
    obtain ⟨hbody, rfl⟩ := ih hfront
    exact ⟨.short ((shortEscape?_isSome_iff b).mpr hshort) hbody, rfl⟩
  | case6 => cases h
  | case7 => cases h
  | case8 b s hquote _ _ hplain ih =>
    obtain ⟨⟨front, rest⟩, hfront, heq⟩ := Option.map_eq_some_iff.mp h
    obtain ⟨rfl, rfl⟩ := Prod.mk.inj heq
    obtain ⟨hbody, rfl⟩ := ih hfront
    simp only [Bool.or_eq_true, decide_eq_true_eq, beq_iff_eq, not_or] at hplain
    exact ⟨.plain hplain.1 hquote hplain.2 hbody, rfl⟩

theorem digitByte_of_isDigit {b : UInt8} (h : isDigit b) :
    b.toNat - 48 < 10 ∧ UInt8.ofNat (48 + (b.toNat - 48)) = b := by
  simp only [isDigit, Bool.and_eq_true, decide_eq_true_eq, UInt8.le_iff_toNat_le] at h
  change 48 ≤ b.toNat ∧ b.toNat ≤ 57 at h
  refine ⟨by omega, ?_⟩
  rw [show 48 + (b.toNat - 48) = b.toNat by omega, UInt8.ofNat_toNat]

theorem digits_of_digitRun {s : List UInt8} {digits : List Nat} {rest : List UInt8} (h : digitRun s = (digits, rest)) :
    (∀ d ∈ digits, d < 10) ∧ s = Number.digitBytes digits ++ rest := by
  obtain ⟨rfl, rfl⟩ := Prod.mk.inj h
  have hrun : ∀ b ∈ s.takeWhile isDigit, isDigit b := fun b hb => List.mem_takeWhile_imp hb
  refine ⟨List.forall_mem_map.mpr fun b hb => (digitByte_of_isDigit (hrun b hb)).1, ?_⟩
  have hback : Number.digitBytes ((s.takeWhile isDigit).map fun b => b.toNat - 48) = s.takeWhile isDigit := by
    rw [Number.digitBytes, List.map_map, List.map_congr_left (g := id), List.map_id]
    exact fun b hb => (digitByte_of_isDigit (hrun b hb)).2
  rw [hback, List.takeWhile_append_dropWhile]

theorem writes_of_fraction {s rest : List UInt8} {o : Option (List Nat)} (h : fraction s = some (o, rest)) :
    ∃ f, WritesFraction o f ∧ s = f ++ rest := by
  unfold fraction at h
  split at h
  · split at h
    · cases h
    next digits tail hne hrun =>
      obtain ⟨rfl, rfl⟩ := Prod.mk.inj (Option.some.inj h)
      obtain ⟨hdigits, rfl⟩ := digits_of_digitRun hrun
      exact ⟨_, .present ⟨hne, hdigits⟩, rfl⟩
  · obtain ⟨rfl, rfl⟩ := Prod.mk.inj (Option.some.inj h)
    exact ⟨[], .absent, rfl⟩

theorem writes_of_exponent {s rest : List UInt8} {o : Option (Bool × List Nat)} (h : exponent s = some (o, rest)) :
    ∃ e, WritesExponent o e ∧ s = e ++ rest := by
  unfold exponent at h
  split at h
  next b tail =>
    split at h
    next hletter =>
      split at h
      next negative after hsign =>
        obtain ⟨sign, hmem, rfl⟩ : ∃ sign, (sign, negative) ∈ exponentSigns ∧ tail = sign ++ after := by
          split at hsign <;> obtain ⟨rfl, rfl⟩ := Prod.mk.inj hsign
          · exact ⟨[0x2B], by decide, rfl⟩
          · exact ⟨[0x2D], by decide, rfl⟩
          · exact ⟨[], by decide, rfl⟩
        split at h
        · cases h
        next digits tail hne hrun =>
          obtain ⟨rfl, rfl⟩ := Prod.mk.inj (Option.some.inj h)
          obtain ⟨hdigits, rfl⟩ := digits_of_digitRun hrun
          have hletter : b = 0x65 ∨ b = 0x45 := by simpa using hletter
          exact ⟨_, .present hletter hmem ⟨hne, hdigits⟩, by simp⟩
    next =>
      obtain ⟨rfl, rfl⟩ := Prod.mk.inj (Option.some.inj h)
      exact ⟨[], .absent, rfl⟩
  next =>
    obtain ⟨rfl, rfl⟩ := Prod.mk.inj (Option.some.inj h)
    exact ⟨[], .absent, rfl⟩

theorem writes_of_unsigned {negative : Bool} {s rest : List UInt8} {v : Json}
    (h : unsigned negative s = some (v, rest)) :
    ∃ t, Writes v ((if negative then [0x2D] else []) ++ t) ∧ s = t ++ rest := by
  unfold unsigned at h
  split at h
  next whole tail hrun =>
    obtain ⟨hwhole, rfl⟩ := digits_of_digitRun hrun
    split at h
    · cases h
    next hcheck =>
      simp only [Bool.or_eq_true, List.isEmpty_iff, Bool.and_eq_true, beq_iff_eq, decide_eq_true_eq, not_or] at hcheck
      obtain ⟨hne, hzero⟩ := hcheck
      obtain ⟨⟨fraction, tail⟩, hfraction, h⟩ := Option.bind_eq_some_iff.mp h
      obtain ⟨⟨exponent, tail⟩, hexponent, h⟩ := Option.bind_eq_some_iff.mp h
      obtain ⟨rfl, rfl⟩ := Prod.mk.inj (Option.some.inj h)
      obtain ⟨f, hf, rfl⟩ := writes_of_fraction hfraction
      obtain ⟨e, he, rfl⟩ := writes_of_exponent hexponent
      have hsingle : whole.head? = some 0 → whole = [0] := by
        intro hhead
        obtain ⟨more, rfl⟩ := List.head?_eq_some_iff.mp hhead
        have hshort : ¬ 1 < (0 :: more).length := fun hlong => hzero ⟨hhead, hlong⟩
        rw [List.length_cons] at hshort
        rw [List.length_eq_zero_iff.mp (show more.length = 0 by omega)]
      refine ⟨_, .mk ⟨hne, hwhole⟩ hsingle hf he, by simp only [List.append_assoc]⟩

/-! ## Values -/

theorem skipSpace_split (s : List UInt8) : ∃ space, IsSpace space ∧ s = space ++ skipSpace s :=
  ⟨_, fun _ hb => List.mem_takeWhile_imp hb, List.takeWhile_append_dropWhile.symm⟩

/-- After white space the input starts with a text of the kind `P` and goes on with the rest. -/
def StartsWith (P : List UInt8 → Prop) (s rest : List UInt8) : Prop :=
  ∃ before t, IsSpace before ∧ P t ∧ s = before ++ (t ++ rest)

theorem startsWith_of_skipSpace {P : List UInt8 → Prop} {s t rest : List UInt8} (hskip : skipSpace s = t ++ rest)
    (ht : P t) : StartsWith P s rest := by
  obtain ⟨before, hbefore, hs⟩ := skipSpace_split s
  exact ⟨before, t, hbefore, ht, hs.trans (congrArg _ hskip)⟩

theorem StartsWith.spaced {P : List UInt8 → Prop} {s rest next : List UInt8} (h : StartsWith P s rest)
    (hnext : skipSpace rest = next) : ∃ t, Spaced P t ∧ s = t ++ next := by
  obtain ⟨before, t, hbefore, ht, rfl⟩ := h
  obtain ⟨after, hafter, hrest⟩ := skipSpace_split rest
  refine ⟨before ++ (t ++ after), ⟨before, t, after, hbefore, ht, hafter, rfl⟩, ?_⟩
  rw [hrest, hnext]
  simp only [List.append_assoc]

/-- With this fuel only texts of values are read. -/
def ReadsValues (fuel : Nat) : Prop := ∀ ⦃s rest : List UInt8⦄ ⦃v : Json⦄, value fuel s = some (v, rest) →
  StartsWith (Writes v) s rest

/-- With this fuel only texts of items are read. -/
def ReadsItems (fuel : Nat) : Prop := ∀ ⦃s rest : List UInt8⦄ ⦃vs : List Json⦄, items fuel s = some (vs, rest) →
  vs ≠ [] ∧ ∃ t, WritesItems vs t ∧ s = t ++ 0x5D :: rest

/-- With this fuel only texts of members are read. -/
def ReadsMembers (fuel : Nat) : Prop := ∀ ⦃s rest : List UInt8⦄ ⦃ms : List (Literal × Json)⦄,
  members fuel s = some (ms, rest) → ms ≠ [] ∧ ∃ t, WritesMembers ms t ∧ s = t ++ 0x7D :: rest

theorem readsItems_succ {fuel : Nat} (hvalue : ReadsValues fuel) (hitems : ReadsItems fuel) :
    ReadsItems (fuel + 1) := by
  intro s rest vs h
  rw [items] at h
  obtain ⟨⟨v, tail⟩, hv, hnext⟩ := Option.bind_eq_some_iff.mp h
  have hv := hvalue hv
  simp only at hnext
  split at hnext
  next hcomma =>
    obtain ⟨t, ht, rfl⟩ := hv.spaced hcomma
    obtain ⟨⟨more, tail⟩, hmore, heq⟩ := Option.map_eq_some_iff.mp hnext
    obtain ⟨rfl, rfl⟩ := Prod.mk.inj heq
    obtain ⟨hne, u, hu, rfl⟩ := hitems hmore
    obtain ⟨w, more, rfl⟩ := List.exists_cons_of_ne_nil hne
    exact ⟨List.cons_ne_nil _ _, _, ⟨t, u, ht, hu, rfl⟩, by simp⟩
  next hclose =>
    obtain ⟨t, ht, rfl⟩ := hv.spaced hclose
    obtain ⟨rfl, rfl⟩ := Prod.mk.inj (Option.some.inj hnext)
    exact ⟨List.cons_ne_nil _ _, t, ht, rfl⟩
  · cases hnext

theorem startsWith_literal {s tail body rest : List UInt8} (hquote : skipSpace s = 0x22 :: tail)
    (h : stringBody tail = some (body, rest)) : StartsWith (WritesLiteral ⟨body⟩) s rest := by
  obtain ⟨hbody, rfl⟩ := isBody_of_stringBody h
  refine startsWith_of_skipSpace ?_ ⟨hbody, rfl⟩
  rw [hquote]
  simp [Literal.encode]

theorem readsMembers_succ {fuel : Nat} (hvalue : ReadsValues fuel) (hmembers : ReadsMembers fuel) :
    ReadsMembers (fuel + 1) := by
  intro s rest ms h
  rw [members] at h
  split at h
  next hquote =>
    obtain ⟨⟨body, tail⟩, hbody, hmember⟩ := Option.bind_eq_some_iff.mp h
    have hname := startsWith_literal hquote hbody
    simp only at hmember
    split at hmember
    next hcolon =>
      obtain ⟨t, ht, rfl⟩ := hname.spaced hcolon
      obtain ⟨⟨v, tail⟩, hv, hnext⟩ := Option.bind_eq_some_iff.mp hmember
      have hv := hvalue hv
      simp only at hnext
      split at hnext
      next hcomma =>
        obtain ⟨u, hu, rfl⟩ := hv.spaced hcomma
        obtain ⟨⟨more, tail⟩, hmore, heq⟩ := Option.map_eq_some_iff.mp hnext
        obtain ⟨rfl, rfl⟩ := Prod.mk.inj heq
        obtain ⟨hne, w, hw, rfl⟩ := hmembers hmore
        obtain ⟨m, more, rfl⟩ := List.exists_cons_of_ne_nil hne
        exact ⟨List.cons_ne_nil _ _, _, ⟨t, u, w, ht, hu, hw, rfl⟩, by simp⟩
      next hclose =>
        obtain ⟨u, hu, rfl⟩ := hv.spaced hclose
        obtain ⟨rfl, rfl⟩ := Prod.mk.inj (Option.some.inj hnext)
        exact ⟨List.cons_ne_nil _ _, _, ⟨t, u, ht, hu, rfl⟩, by simp⟩
      · cases hnext
    · cases hmember
  · cases h

/-- What stands between two brackets, behind white space. -/
theorem startsWith_enclosed {P : List UInt8 → Prop} {opening closing : UInt8} {s tail inner rest : List UInt8}
    (hopen : skipSpace s = opening :: tail) (hinner : P inner) (htail : tail = inner ++ closing :: rest) :
    StartsWith (fun t => ∃ inner, P inner ∧ t = opening :: (inner ++ [closing])) s rest := by
  refine startsWith_of_skipSpace ?_ ⟨inner, hinner, rfl⟩
  rw [hopen, htail, List.cons_append, List.append_assoc, List.singleton_append]

theorem readsValues_succ {fuel : Nat} (hitems : ReadsItems fuel) (hmembers : ReadsMembers fuel) :
    ReadsValues (fuel + 1) := by
  intro s rest v h
  rw [value] at h
  split at h
  next hnull =>
    obtain ⟨rfl, rfl⟩ := Prod.mk.inj (Option.some.inj h)
    exact startsWith_of_skipSpace hnull rfl
  next htrue =>
    obtain ⟨rfl, rfl⟩ := Prod.mk.inj (Option.some.inj h)
    exact startsWith_of_skipSpace htrue rfl
  next hfalse =>
    obtain ⟨rfl, rfl⟩ := Prod.mk.inj (Option.some.inj h)
    exact startsWith_of_skipSpace hfalse rfl
  next hquote =>
    obtain ⟨⟨body, tail⟩, hbody, heq⟩ := Option.map_eq_some_iff.mp h
    obtain ⟨rfl, rfl⟩ := Prod.mk.inj heq
    exact startsWith_literal hquote hbody
  next hminus =>
    obtain ⟨t, ht, rfl⟩ := writes_of_unsigned h
    exact startsWith_of_skipSpace hminus ht
  next tail hopen =>
    split at h
    next hclose =>
      obtain ⟨space, hspace, htail⟩ := skipSpace_split tail
      obtain ⟨rfl, rfl⟩ := Prod.mk.inj (Option.some.inj h)
      exact startsWith_enclosed hopen hspace (htail.trans (congrArg _ hclose))
    next =>
      obtain ⟨⟨vs, tail⟩, hvs, heq⟩ := Option.map_eq_some_iff.mp h
      obtain ⟨rfl, rfl⟩ := Prod.mk.inj heq
      obtain ⟨-, t, ht, rfl⟩ := hitems hvs
      exact startsWith_enclosed hopen ht rfl
  next tail hopen =>
    split at h
    next hclose =>
      obtain ⟨space, hspace, htail⟩ := skipSpace_split tail
      obtain ⟨rfl, rfl⟩ := Prod.mk.inj (Option.some.inj h)
      exact startsWith_enclosed hopen hspace (htail.trans (congrArg _ hclose))
    next =>
      obtain ⟨⟨ms, tail⟩, hms, heq⟩ := Option.map_eq_some_iff.mp h
      obtain ⟨rfl, rfl⟩ := Prod.mk.inj heq
      obtain ⟨-, t, ht, rfl⟩ := hmembers hms
      exact startsWith_enclosed hopen ht rfl
  next =>
    -- what starts no other token is a number without a sign
    obtain ⟨t, ht, hs⟩ := writes_of_unsigned h
    exact startsWith_of_skipSpace hs ht

/-- **Whatever the fuel, only texts of values are read.** -/
theorem reads (fuel : Nat) : ReadsValues fuel ∧ ReadsItems fuel ∧ ReadsMembers fuel := by
  induction fuel with
  | zero => exact ⟨nofun, nofun, nofun⟩
  | succ fuel ih =>
    obtain ⟨hvalue, hitems, hmembers⟩ := ih
    exact ⟨readsValues_succ hitems hmembers, readsItems_succ hvalue hitems, readsMembers_succ hvalue hmembers⟩

theorem document_of_parse {v : Json} {s : List UInt8} (h : parse s = some v) : Document v s := by
  obtain ⟨⟨w, rest⟩, hvalue, hrest⟩ := Option.bind_eq_some_iff.mp h
  simp only [Option.ite_none_right_eq_some, List.isEmpty_iff, Option.some.injEq] at hrest
  obtain ⟨hend, rfl⟩ := hrest
  obtain ⟨t, ht, rfl⟩ := ((reads _).1 hvalue).spaced hend
  rwa [List.append_nil]

/-- **A document is read as a value exactly if it holds the value.** -/
theorem parse_eq_some_iff {v : Json} {s : List UInt8} : parse s = some v ↔ Document v s :=
  ⟨document_of_parse, parse_of_document⟩

end Galley.Json
