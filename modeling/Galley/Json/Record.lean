import Galley.Json.Literal

/-! Reading values as the library's own types. A record is written either as an object or as the list of its
fields in order. As an object it may hold members of other names, which are ignored whatever they are, but no
field twice; as a list it may stop early but not hold more values than there are fields. -/
namespace Galley.Json

/-- A text. -/
def text? : Json → Option String
  | string s => s.text?
  | _ => none

/-- A truth value. -/
def bool? : Json → Option Bool
  | bool b => some b
  | _ => none

/-- A natural number below `bound`. -/
def natBelow? (bound : Nat) : Json → Option Nat
  | number n => n.nat?.filter (· < bound)
  | _ => none

/-- An integer. -/
def int? : Json → Option Int
  | number n => n.int?
  | _ => none

/-- A list whose items are all read by `item`. -/
def list? {α : Type} (item : Json → Option α) : Json → Option (List α)
  | array items => items.mapM item
  | _ => none

/-- A value that may be `null`. -/
def nullable? {α : Type} (item : Json → Option α) : Json → Option (Option α)
  | null => some none
  | v => (item v).map some

/-- The members of an object under their names read as texts. -/
def named? : Json → Option (List (String × Json))
  | object members => members.mapM fun m => m.1.text?.map (·, m.2)
  | _ => none

/-- The first member of an object under a name. -/
def member? (v : Json) (name : String) : Option Json := do
  let members ← v.named?
  members.lookup name

/-- The fields that a record holds, by name. -/
abbrev Fields := String → Option Json

/-- A record with the given field names, in order. -/
def record? (names : List String) : Json → Option Fields
  | array items =>
    if items.length ≤ names.length then some fun name => (names.zip items).lookup name else none
  | v => do
    let members ← v.named?
    if names.any fun name => (members.filter (·.1 == name)).length > 1 then none
    else some fun name => members.lookup name

/-- A field that must be there. -/
def Fields.required {α : Type} (fields : Fields) (name : String) (read : Json → Option α) : Option α :=
  (fields name).bind read

/-- A field that has a default: absent is fine, ill-formed is not. -/
def Fields.default {α : Type} (fields : Fields) (name : String) (fallback : α) (read : Json → Option α) :
    Option α :=
  match fields name with
  | none => some fallback
  | some v => read v

end Galley.Json
