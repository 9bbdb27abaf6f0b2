import Galley.Proofs.Json.Literals
import Mathlib.Data.List.Perm.Basic

/-! # Records as objects

An object says what the fields of a record hold if it has, in any order, a member for every
field that is not left out, and besides them members of other names only, with whatever
values (`SaysRecord`).  A field can be left out if it holds its default.

One member at most is then written for each field (`Field.IsWrittenIn`).  Reading finds of every
field what is written, or that it is left out (`record?_of_says`), so that each field is read as
what it holds (`Field.Found.required`, `Field.Found.default`). -/
namespace Galley.Json
open Literal
variable {α : Type}

/-! ## What values say -/

/-- The value says a text: it is a literal, however spelled, that stands for it. -/
def SaysText (s : String) (v : Json) : Prop := ∃ l : Literal, l.text? = some s ∧ v = string l

/-- The value says a text that may be missing. -/
def SaysOptional : Option String → Json → Prop
  | none, v => v = null
  | some s, v => SaysText s v

/-- The value says a truth value. -/
def SaysBool (b : Bool) (v : Json) : Prop := v = bool b

/-- The value says a list: it has an item for each of its entries. -/
def SaysList (Says : α → Json → Prop) (entries : List α) (v : Json) : Prop :=
  ∃ items, List.Forall₂ Says entries items ∧ v = array items

theorem saysText_text (s : String) : SaysText s (text s) := ⟨.ofString s, text?_ofString s, rfl⟩

theorem saysList_map {Says : α → Json → Prop} {write : α → Json} (h : ∀ x, Says x (write x)) (entries : List α) :
    SaysList Says entries (array (entries.map write)) := by
  refine ⟨entries.map write, ?_, rfl⟩
  rw [List.forall₂_map_right_iff]
  exact List.forall₂_same.mpr fun x _ => h x

theorem text?_of_says {s : String} {v : Json} (h : SaysText s v) : v.text? = some s := by
  obtain ⟨l, hl, rfl⟩ := h
  exact hl

theorem nullable?_of_says {o : Option String} {v : Json} (h : SaysOptional o v) : nullable? text? v = some o := by
  cases o with
  | none =>
    obtain rfl := h
    rfl
  | some s =>
    obtain ⟨l, hl, rfl⟩ := h
    show (l.text?).map some = _
    rw [hl, Option.map_some]

theorem bool?_of_says {b : Bool} {v : Json} (h : SaysBool b v) : v.bool? = some b := by
  obtain rfl := h
  rfl

theorem mapM_of_forall₂ {β γ : Type} {f : β → Option γ} {xs : List β} {ys : List γ}
    (h : List.Forall₂ (fun x y => f x = some y) xs ys) : xs.mapM f = some ys := by
  induction h with
  | nil => rfl
  | cons hx _ ih => simp [List.mapM_cons, hx, ih]

theorem list?_of_says {Says : α → Json → Prop} {item : Json → Option α} {entries : List α} {v : Json}
    (hread : ∀ x w, Says x w → item w = some x) (h : SaysList Says entries v) : list? item v = some entries := by
  obtain ⟨items, hitems, rfl⟩ := h
  exact mapM_of_forall₂ (hitems.flip.imp fun w x hx => hread x w hx)

/-! ## What records say -/

/-- A field of a record: its name, the values that say what it holds, and whether that is its
default, so that the record may be written without it. -/
structure Field where
  name : String
  Says : Json → Prop
  IsDefault : Prop

/-- Members that write the fields in their order, some of those at their default left out. -/
inductive Kept : List Field → List (String × Json) → Prop where
  | nil : Kept [] []
  | kept {f : Field} {schema : List Field} {w : Json} {members : List (String × Json)} (h : f.Says w)
      (hrest : Kept schema members) : Kept (f :: schema) ((f.name, w) :: members)
  | left {f : Field} {schema : List Field} {members : List (String × Json)} (h : f.IsDefault)
      (hrest : Kept schema members) : Kept (f :: schema) members

/-- The member is written under a literal that stands for its name. -/
def Spelled (m : Literal × Json) (member : String × Json) : Prop := m.1.text? = some member.1 ∧ m.2 = member.2

/-- The value is an object that writes the fields, in any order and among other members. -/
def SaysRecord (schema : List Field) (v : Json) : Prop :=
  ∃ kept foreign members written, Kept schema kept ∧ (∀ m ∈ foreign, m.1 ∉ schema.map Field.name) ∧
    List.Perm members (kept ++ foreign) ∧ List.Forall₂ Spelled written members ∧ v = object written

/-- What is found of a field. -/
def Field.Found (f : Field) (fields : Fields) : Prop :=
  (∃ w, fields f.name = some w ∧ f.Says w) ∨ (fields f.name = none ∧ f.IsDefault)

/-- **Members say the record if, each under the literal of its name, they write its fields**,
whatever their order and whatever is among them. -/
theorem saysRecord_record {schema : List Field} {kept members : List (String × Json)} (h : Kept schema kept)
    (foreign : List (String × Json)) (hforeign : ∀ m ∈ foreign, m.1 ∉ schema.map Field.name)
    (hperm : List.Perm members (kept ++ foreign)) :
    SaysRecord schema (record members) := by
  refine ⟨kept, foreign, members, _, h, hforeign, hperm, ?_, rfl⟩
  rw [List.forall₂_map_left_iff]
  exact List.forall₂_same.mpr fun m _ => ⟨text?_ofString m.1, rfl⟩

/-- The fields written in their order say the record. -/
theorem Kept.says {schema : List Field} {members : List (String × Json)} (h : Kept schema members) :
    SaysRecord schema (record members) :=
  saysRecord_record h [] (List.forall_mem_nil _) (List.Perm.of_eq (List.append_nil members).symm)

theorem named?_of_spelled {written : List (Literal × Json)} {members : List (String × Json)}
    (h : List.Forall₂ Spelled written members) : (object written).named? = some members := by
  refine mapM_of_forall₂ (h.imp ?_)
  rintro ⟨l, w⟩ ⟨name, w'⟩ ⟨hname, rfl⟩
  show (l.text?).map _ = _
  rw [hname, Option.map_some]

theorem Kept.name_mem {schema : List Field} {members : List (String × Json)} (h : Kept schema members) :
    ∀ m ∈ members, m.1 ∈ schema.map Field.name := by
  induction h with
  | nil => exact fun _ hm => absurd hm List.not_mem_nil
  | kept _ _ ih =>
    intro m hm
    rcases List.mem_cons.mp hm with rfl | hm
    · exact List.mem_cons_self
    · exact List.mem_cons_of_mem _ (ih m hm)
  | left _ _ ih => exact fun m hm => List.mem_cons_of_mem _ (ih m hm)

/-- The members of one name. -/
def under (name : String) (members : List (String × Json)) : List (String × Json) := members.filter (·.1 == name)

theorem under_cons (name : String) (m : String × Json) (members : List (String × Json)) :
    under name (m :: members) = if m.1 = name then m :: under name members else under name members := by
  simp [under, List.filter_cons]

theorem under_eq_nil {name : String} {members : List (String × Json)} (h : ∀ m ∈ members, m.1 ≠ name) :
    under name members = [] :=
  List.filter_eq_nil_iff.mpr fun m hm => by simpa using h m hm

/-- One member is written for the field, or none if the field is at its default. -/
def Field.IsWrittenIn (f : Field) (members : List (String × Json)) : Prop :=
  (∃ w, under f.name members = [(f.name, w)] ∧ f.Says w) ∨ (under f.name members = [] ∧ f.IsDefault)

theorem Kept.isWrittenIn {schema : List Field} {members : List (String × Json)} (h : Kept schema members)
    (hnames : (schema.map Field.name).Nodup) {f : Field} (hf : f ∈ schema) : f.IsWrittenIn members := by
  induction h with
  | nil => exact absurd hf List.not_mem_nil
  | @kept f' schema w members hw hrest ih =>
    rw [List.map_cons, List.nodup_cons] at hnames
    rcases List.mem_cons.mp hf with rfl | hf
    · have hnone : under f.name members = [] :=
        under_eq_nil fun m hm heq => hnames.1 (heq ▸ hrest.name_mem m hm)
      refine .inl ⟨w, ?_, hw⟩
      rw [under_cons, if_pos rfl, hnone]
    · have hne : f'.name ≠ f.name := fun heq => hnames.1 (heq ▸ List.mem_map_of_mem hf)
      rw [Field.IsWrittenIn, under_cons, if_neg hne]
      exact ih hnames.2 hf
  | @left f' schema members hdefault hrest ih =>
    rw [List.map_cons, List.nodup_cons] at hnames
    rcases List.mem_cons.mp hf with rfl | hf
    · exact .inr ⟨under_eq_nil fun m hm heq => hnames.1 (heq ▸ hrest.name_mem m hm), hdefault⟩
    · exact ih hnames.2 hf

/-- Neither members of other names nor the order make a difference to a field. -/
theorem Field.IsWrittenIn.among {f : Field} {kept foreign members : List (String × Json)} (h : f.IsWrittenIn kept)
    (hforeign : ∀ m ∈ foreign, m.1 ≠ f.name) (hperm : List.Perm members (kept ++ foreign)) :
    f.IsWrittenIn members := by
  have hsame : (under f.name members).Perm (under f.name kept) := by
    have hfilter : (under f.name members).Perm (under f.name (kept ++ foreign)) := hperm.filter _
    have hsplit : under f.name (kept ++ foreign) = under f.name kept ++ under f.name foreign := List.filter_append _ _
    rwa [hsplit, under_eq_nil hforeign, List.append_nil] at hfilter
  rcases h with ⟨w, hw, hsays⟩ | ⟨hnone, hdefault⟩
  · rw [hw, List.perm_singleton] at hsame
    exact .inl ⟨w, hsame, hsays⟩
  · rw [hnone, List.perm_nil] at hsame
    exact .inr ⟨hsame, hdefault⟩

theorem Field.IsWrittenIn.length_le {f : Field} {members : List (String × Json)} (h : f.IsWrittenIn members) :
    (under f.name members).length ≤ 1 := by
  rcases h with ⟨w, hw, -⟩ | ⟨hnone, -⟩
  · rw [hw]
    exact Nat.le_refl 1
  · rw [hnone]
    exact Nat.zero_le 1

theorem lookup_eq_under (name : String) (members : List (String × Json)) :
    members.lookup name = (under name members).head?.map Prod.snd := by
  induction members with
  | nil => rfl
  | cons m members ih =>
    by_cases h : m.1 = name
    · rw [under_cons, if_pos h, List.lookup_cons, beq_iff_eq.mpr h.symm]
      rfl
    · rw [under_cons, if_neg h, List.lookup_cons, beq_false_of_ne (Ne.symm h)]
      exact ih

theorem Field.IsWrittenIn.found {f : Field} {members : List (String × Json)} (h : f.IsWrittenIn members) :
    f.Found fun name => members.lookup name := by
  rw [Field.Found, lookup_eq_under]
  rcases h with ⟨w, hw, hsays⟩ | ⟨hnone, hdefault⟩
  · refine .inl ⟨w, ?_, hsays⟩
    rw [hw, List.head?_cons, Option.map_some]
  · refine .inr ⟨?_, hdefault⟩
    rw [hnone, List.head?_nil, Option.map_none]

/-- **Of every field there is found what is written, or that it is left out.** -/
theorem record?_of_says {schema : List Field} {v : Json} (hnames : (schema.map Field.name).Nodup)
    (h : SaysRecord schema v) :
    ∃ fields, v.record? (schema.map Field.name) = some fields ∧ ∀ f ∈ schema, f.Found fields := by
  obtain ⟨kept, foreign, members, written, hkept, hforeign, hperm, hwritten, rfl⟩ := h
  have hfields : ∀ f ∈ schema, f.IsWrittenIn members := fun f hf =>
    (hkept.isWrittenIn hnames hf).among (fun m hm heq => hforeign m hm (heq ▸ List.mem_map_of_mem hf)) hperm
  have htwice : ¬ ((schema.map Field.name).any fun name => (members.filter (·.1 == name)).length > 1) = true := by
    rw [List.any_eq_true]
    rintro ⟨_, hname, hlong⟩
    obtain ⟨f, hf, rfl⟩ := List.mem_map.mp hname
    exact absurd (of_decide_eq_true hlong) (Nat.not_lt.mpr (hfields f hf).length_le)
  refine ⟨fun name => members.lookup name, ?_, fun f hf => (hfields f hf).found⟩
  rw [record?]
  · simp only [named?_of_spelled hwritten, Option.bind_eq_bind, Option.bind_some, htwice, if_false, Bool.false_eq_true]
  · exact nofun

theorem Field.Found.required {f : Field} {fields : Fields} {read : Json → Option α} {x : α} (h : f.Found fields)
    (hread : ∀ w, f.Says w → read w = some x) (hneeded : ¬ f.IsDefault) : fields.required f.name read = some x := by
  rcases h with ⟨w, hw, hsays⟩ | ⟨-, hdefault⟩
  · rw [Fields.required, hw]
    exact hread w hsays
  · exact absurd hdefault hneeded

theorem Field.Found.default {f : Field} {fields : Fields} {read : Json → Option α} {x fallback : α} (h : f.Found fields)
    (hread : ∀ w, f.Says w → read w = some x) (hfallback : f.IsDefault → x = fallback) :
    fields.default f.name fallback read = some x := by
  rcases h with ⟨w, hw, hsays⟩ | ⟨hnone, hdefault⟩
  · rw [Fields.default, hw]
    exact hread w hsays
  · rw [Fields.default, hnone, hfallback hdefault]

end Galley.Json
