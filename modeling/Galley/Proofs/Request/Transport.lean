import Galley.Proofs.Json.Accepting
import Galley.Proofs.Json.Records
import Galley.Request.Codec
import Galley.Request.Fingerprint

/-! # Requests in transport

A request is sent as a document.  What the document says is fixed by its schema: the fields
that a request, its options and each package have, what each of them holds, and when it may
be left out (`Request.schema`, `Options.schema`, `Package.schema`).  A value says the request
if it is an object that says these fields, at every level in any order and among members of
other names (`Request.IsSaidBy`); it may be written in any of JSON's ways (`Json.Document`).

The written form of a request is one such document, and every such document is read as the
request, so that it has the same key (`Request.arrives_of_isSaidBy`). -/
namespace Galley
open Json

/-! ## What values say a request -/

/-- The fields of a package. -/
def Package.schema (p : Package) : List Field :=
  [⟨"name", SaysText p.name, False⟩, ⟨"options", SaysOptional p.options, p.options = none⟩]

/-- The value is an object that says the package. -/
def Package.IsSaidBy (p : Package) : Json → Prop := SaysRecord p.schema

/-- The fields of options. -/
def Options.schema (o : Options) : List Field :=
  [⟨"packages", SaysList Package.IsSaidBy o.packages, o.packages = []⟩,
    ⟨"libraries", SaysList SaysText o.libraries, o.libraries = []⟩,
    ⟨"preamble", SaysOptional o.preamble, o.preamble = none⟩,
    ⟨"tikz_options", SaysOptional o.pictureOptions, o.pictureOptions = none⟩,
    ⟨"show_console", SaysBool o.showConsole, o.showConsole = false⟩]

/-- The value is an object that says the options. -/
def Options.IsSaidBy (o : Options) : Json → Prop := SaysRecord o.schema

/-- The fields of a request. -/
def Request.schema (r : Request) : List Field :=
  [⟨"source", SaysText r.source, False⟩, ⟨"options", r.options.IsSaidBy, r.options = .plain⟩]

/-- The value is an object that says the request. -/
def Request.IsSaidBy (r : Request) : Json → Prop := SaysRecord r.schema

/-- The request that a document holds. -/
def Request.ofBytes? (bytes : ByteArray) : Option Request := (Json.ofBytes? bytes).bind ofJson?

@[simp]
theorem Package.names_schema (p : Package) : p.schema.map Field.name = ["name", "options"] := rfl

@[simp]
theorem Options.names_schema (o : Options) :
    o.schema.map Field.name = ["packages", "libraries", "preamble", "tikz_options", "show_console"] := rfl

@[simp]
theorem Request.names_schema (r : Request) : r.schema.map Field.name = ["source", "options"] := rfl

/-- The bytes are read as the request, and so as one with its key. -/
def Request.Arrives (r : Request) (bytes : ByteArray) : Prop :=
  ofBytes? bytes = some r ∧ (ofBytes? bytes).map fingerprint = some r.fingerprint

/-! ## Reading what is said -/

theorem Package.ofJson?_of_isSaidBy {p : Package} {v : Json} (h : p.IsSaidBy v) : ofJson? v = some p := by
  obtain ⟨fields, hfields, hfound⟩ := record?_of_says (by simp) h
  rw [names_schema] at hfields
  simp only [schema, List.forall_mem_cons] at hfound
  obtain ⟨hname, hoptions, -⟩ := hfound
  have hname := hname.required (fun _ => text?_of_says) not_false
  have hoptions := hoptions.default (fun _ => nullable?_of_says) id
  simp only [ofJson?, hfields, Option.bind_eq_bind, Option.bind_some, hname, hoptions]

theorem Options.ofJson?_of_isSaidBy {o : Options} {v : Json} (h : o.IsSaidBy v) : ofJson? v = some o := by
  obtain ⟨fields, hfields, hfound⟩ := record?_of_says (by simp) h
  rw [names_schema] at hfields
  simp only [schema, List.forall_mem_cons] at hfound
  obtain ⟨hpackages, hlibraries, hpreamble, hpicture, hconsole, -⟩ := hfound
  have hpackages :=
    hpackages.default (fun _ => list?_of_says fun _ _ => Package.ofJson?_of_isSaidBy) id
  have hlibraries := hlibraries.default (fun _ => list?_of_says fun _ _ => text?_of_says) id
  have hpreamble := hpreamble.default (fun _ => nullable?_of_says) id
  have hpicture := hpicture.default (fun _ => nullable?_of_says) id
  have hconsole := hconsole.default (fun _ => bool?_of_says) id
  simp only [ofJson?, hfields, Option.bind_eq_bind, Option.bind_some, hpackages, hlibraries, hpreamble, hpicture,
    hconsole]

theorem Request.ofJson?_of_isSaidBy {r : Request} {v : Json} (h : r.IsSaidBy v) : ofJson? v = some r := by
  obtain ⟨fields, hfields, hfound⟩ := record?_of_says (by simp) h
  rw [names_schema] at hfields
  simp only [schema, List.forall_mem_cons] at hfound
  obtain ⟨hsource, hoptions, -⟩ := hfound
  have hsource := hsource.required (fun _ => text?_of_says) not_false
  have hoptions := hoptions.default (fun _ => Options.ofJson?_of_isSaidBy) id
  simp only [ofJson?, hfields, Option.bind_eq_bind, Option.bind_some, hsource, hoptions]

theorem Request.ofBytes?_of_document {r : Request} {v : Json} {s : List UInt8} (hv : r.IsSaidBy v)
    (hs : Document v s) : ofBytes? s.toByteArray = some r := by
  rw [ofBytes?, Json.ofBytes?, List.data_toByteArray, List.toList_toArray, parse_of_document hs, Option.bind_some,
    ofJson?_of_isSaidBy hv]

/-! ## The written form -/

theorem saysOptional_optional (o : Option String) : SaysOptional o (Json.optional o) := by
  cases o with
  | none => rfl
  | some s => exact saysText_text s

theorem Package.isSaidBy_toJson (p : Package) : p.IsSaidBy p.toJson :=
  Kept.says (.kept (saysText_text p.name) (.kept (saysOptional_optional p.options) .nil))

theorem Options.isSaidBy_toJson (o : Options) : o.IsSaidBy o.toJson :=
  Kept.says (.kept (saysList_map Package.isSaidBy_toJson o.packages)
    (.kept (saysList_map saysText_text o.libraries) (.kept (saysOptional_optional o.preamble)
      (.kept (saysOptional_optional o.pictureOptions) (.kept rfl .nil)))))

theorem Request.isSaidBy_toJson (r : Request) : r.IsSaidBy r.toJson :=
  Kept.says (.kept (saysText_text r.source) (.kept r.options.isSaidBy_toJson .nil))

theorem writes_encode_optional (o : Option String) : Writes (Json.optional o) (Json.optional o).encode := by
  cases o with
  | none => rfl
  | some s => exact writes_encode_text s

theorem Package.writes_encode (p : Package) : Writes p.toJson p.toJson.encode := by
  refine writes_encode_record ?_
  simp only [List.forall_mem_cons]
  exact ⟨writes_encode_text p.name, writes_encode_optional p.options, nofun⟩

theorem Options.writes_encode (o : Options) : Writes o.toJson o.toJson.encode := by
  have hpackages : ∀ v ∈ o.packages.map Package.toJson, Writes v v.encode :=
    List.forall_mem_map.mpr fun p _ => p.writes_encode
  have hlibraries : ∀ v ∈ o.libraries.map text, Writes v v.encode :=
    List.forall_mem_map.mpr fun s _ => writes_encode_text s
  have hconsole : Writes (.bool o.showConsole) (Json.bool o.showConsole).encode := by
    cases o.showConsole <;> rfl
  refine writes_encode_record ?_
  simp only [List.forall_mem_cons]
  exact ⟨writes_encode_array hpackages, writes_encode_array hlibraries, writes_encode_optional o.preamble,
    writes_encode_optional o.pictureOptions, hconsole, nofun⟩

theorem Request.document_encode (r : Request) : Document r.toJson r.toJson.encode := by
  refine spaced_of (writes_encode_record ?_)
  simp only [List.forall_mem_cons]
  exact ⟨writes_encode_text r.source, r.options.writes_encode, nofun⟩

/-- **Requests survive transport.**  The written form of a request says the request and is read
as it; and so is every document of a value that says the request. -/
theorem Request.arrives_of_isSaidBy (r : Request) :
    (r.IsSaidBy r.toJson ∧ Document r.toJson r.toJson.encode ∧ r.Arrives r.toJson.toBytes) ∧
    ∀ (v : Json) (s : List UInt8), r.IsSaidBy v → Document v s → r.Arrives s.toByteArray := by
  have harrives : ∀ (v : Json) (s : List UInt8), r.IsSaidBy v → Document v s → r.Arrives s.toByteArray := by
    intro v s hv hs
    have hread := ofBytes?_of_document hv hs
    exact ⟨hread, by rw [hread, Option.map_some]⟩
  have hsaid := r.isSaidBy_toJson
  have hdocument := r.document_encode
  exact ⟨⟨hsaid, hdocument, harrives _ _ hsaid hdocument⟩, harrives⟩

/-- A request with a package that has no options, and a preamble outside ASCII. -/
def Request.sent : Request :=
  { source := "\\draw (0,0);",
    options := { Options.plain with packages := [⟨"xcolor", none⟩], preamble := some "é" } }

/-- What another sender may write for it: fields out of order, escaped or left out, and members
of other names, one of them with a literal that stands for no text. -/
def Request.sentText : String :=
  "\x7b\"note\": [1.5E+9, \"\\udead\"], \"options\": \x7b\"preamble\":\"\\u00e9\",\n" ++
    "\"packages\": [\x7b\"version\": null, \"name\": \"xcolor\" \x7d]\x7d, \"source\": \"\\\\draw (0,0);\" \x7d"

/-- The value that the text holds. -/
def Request.sentValue : Json :=
  let xcolor := Json.record [("version", .null), ("name", .text "xcolor")]
  let options := Json.record [("preamble", .string ⟨"\\u00e9".toUTF8.data.toList⟩), ("packages", .array [xcolor])]
  let note :=
    { negative := false, whole := [1], fraction := [5], exponent := some (false, [9]), isWhole := false : Number }
  .record
    [("note", .array [.number note, .string ⟨"\\udead".toUTF8.data.toList⟩]), ("options", options),
      ("source", .text "\\draw (0,0);")]

theorem Request.isSaidBy_sentValue : sent.IsSaidBy sentValue := by
  have hxcolor : Package.IsSaidBy ⟨"xcolor", none⟩ (.record [("version", .null), ("name", .text "xcolor")]) :=
    saysRecord_record (.kept (saysText_text "xcolor") (.left rfl .nil)) [("version", .null)]
      (by simp [-List.mem_map]) (List.reverse_perm [_, _])
  have hpreamble : SaysText "é" (.string ⟨"\\u00e9".toUTF8.data.toList⟩) := ⟨_, rfl, rfl⟩
  have hoptions : sent.options.IsSaidBy _ :=
    saysRecord_record (.kept ⟨_, .cons hxcolor .nil, rfl⟩ (.left rfl (.kept hpreamble (.left rfl (.left rfl .nil)))))
      [] (List.forall_mem_nil _) (List.reverse_perm [_, _])
  exact saysRecord_record (.kept (saysText_text _) (.kept hoptions .nil)) [("note", _)] (by simp [-List.mem_map])
    (List.reverse_perm [_, _, _])

set_option maxRecDepth 20000 in
theorem Request.document_sentText : Document sentValue sentText.toUTF8.data.toList := document_of_parse rfl

theorem Request.arrives_sentText :
    sent.IsSaidBy sentValue ∧ Document sentValue sentText.toUTF8.data.toList ∧
    sent.Arrives sentText.toUTF8.data.toList.toByteArray :=
  ⟨isSaidBy_sentValue, document_sentText,
    (arrives_of_isSaidBy sent).2 sentValue _ isSaidBy_sentValue document_sentText⟩

end Galley
