import Galley.Proofs.Steps
import Galley.Typesetter
import Mathlib.Data.List.Basic

/-! # What the engine starts with

The files on the desk with which an engine starts are those that the request names.  A bundle
has a manifest, in one of two places (`Loader.manifest?`), and the manifest supplies files: the
texts in it, or the single files that its members are stored as, in one of two places as well
(`Loader.stored?`).  Of what is supplied for one name the last counts, and the document of the
request counts before all of it (`setOut_supplies`).

A bundle without a manifest is the only reason not to set out, and then the engine has no part
in the answer.  A member that cannot be loaded is left out. -/
namespace Galley

/-- The manifest in stored bytes, which may be compressed. -/
def Manifest.ofBytes? (bytes : ByteArray) : Option Manifest :=
  (if Gzip.isMember bytes then Gzip.decompress? bytes else some bytes).bind fun text =>
    (Json.ofBytes? text).bind ofJson?

namespace Loader

/-- The entry of a single file: what is stored under its name or, only if nothing is found there, under its
older name. -/
def stored? (l : Loader) (name : String) : Option ByteArray :=
  match l.store (l.filePath name) with
  | .ok bytes => Gzip.decompress? bytes
  | .error .notFound => do
    let older ← olderName? name
    let bytes ← (l.store (l.filePath older)).toOption
    Gzip.decompress? bytes
  | .error (.io _) => none

/-- What is stored for the manifest of a bundle, with its name: the plain one or, only if nothing is found
there, the compressed one. -/
def storedManifest? (l : Loader) (kind : BundleKind) (name : String) : Option (String × ByteArray) :=
  let plain := l.directory kind ++ "/" ++ name ++ ".json"
  let compressed := plain ++ ".gz"
  match l.store plain with
  | .ok bytes => some (plain, bytes)
  | .error .notFound => (l.store compressed).toOption.map (compressed, ·)
  | .error (.io _) => none

def manifest? (l : Loader) (kind : BundleKind) (name : String) : Option Manifest :=
  (l.storedManifest? kind name).bind fun stored => Manifest.ofBytes? stored.2

end Loader

/-- What a manifest supplies for a name: the text in it, or the entry of a member. -/
def Manifest.supplied? (l : Loader) (name : String) : Manifest → Option ByteArray
  | members names => if name ∈ names ∧ name ≠ "" then l.stored? name else none
  | inline files => (files.reverse.lookup name).map String.toUTF8

/-! ## Loading a bundle -/

namespace Loading
variable {α β : Type} {load : Loading α} {asked asked' : Array String}

/-- A load comes to this, or fails where this is nothing. -/
def Yields (load : Loading α) (asked : Array String) : Option α → Prop
  | some a => ∃ asked', load asked = .ok a asked'
  | none => ∃ cause asked', load asked = .error cause asked'

theorem yields_bind_of_ok {k : α → Loading β} {a : α} {b? : Option β} (h : load asked = .ok a asked')
    (hk : (k a).Yields asked' b?) : (load >>= k).Yields asked b? := by
  have hbind := bind_of_ok (k := k) h
  cases b? with
  | some b => exact hk.imp fun _ hrest => hbind.trans hrest
  | none => exact hk.imp fun _ hrest => hrest.imp fun _ hrest => hbind.trans hrest

/-- The outcome of a load that is attempted. -/
theorem Yields.attempt {a? : Option α} (h : load.Yields asked a?) :
    ∃ result asked', load.attempt asked = .ok result asked' ∧ result.toOption = a? := by
  rw [Loading.attempt]
  cases a? with
  | some a =>
    obtain ⟨asked', hload⟩ := h
    exact ⟨.ok a, asked', by rw [hload], rfl⟩
  | none =>
    obtain ⟨cause, asked', hload⟩ := h
    exact ⟨.error cause, asked', by rw [hload], rfl⟩

/-- One load after another. -/
theorem Yields.bind {k : α → Loading β} {a? : Option α} {b? : α → Option β} (h : load.Yields asked a?)
    (hk : ∀ a asked, (k a).Yields asked (b? a)) : (load >>= k).Yields asked (a?.bind b?) := by
  cases a? with
  | some a =>
    obtain ⟨asked', hload⟩ := h
    exact yields_bind_of_ok hload (hk a asked')
  | none =>
    obtain ⟨cause, asked', hload⟩ := h
    exact ⟨cause, asked', bind_of_error hload⟩

theorem yields_ite_bind {c : Prop} [Decidable c] {other : Loading α} {k : α → Loading β} {a? other? : Option α}
    {b? : α → Option β} (h : load.Yields asked a?) (hother : other.Yields asked other?)
    (hk : ∀ a asked, (k a).Yields asked (b? a)) :
    (if c then load >>= k else other >>= k).Yields asked ((if c then a? else other?).bind b?) := by
  by_cases hc : c
  · rw [if_pos hc, if_pos hc]
    exact h.bind hk
  · rw [if_neg hc, if_neg hc]
    exact hother.bind hk

theorem Yields.pure (a : α) (asked : Array String) : (Pure.pure a : Loading α).Yields asked (some a) := ⟨asked, rfl⟩

theorem Yields.throw (cause : LoadError) (asked : Array String) : (throw cause : Loading α).Yields asked none :=
  ⟨cause, asked, rfl⟩

end Loading

namespace Loader
open Loading
variable (l : Loader)

theorem yields_fetch (name : String) (asked : Array String) : (l.fetch name).Yields asked (l.store name).toOption := by
  cases hstore : l.store name with
  | ok bytes => exact ⟨_, by rw [fetch, hstore]⟩
  | error e => cases e <;> exact ⟨_, _, by rw [fetch, hstore]⟩

theorem yields_inflate (name : String) (bytes : ByteArray) (asked : Array String) :
    (inflate name bytes).Yields asked (Gzip.decompress? bytes) := by
  rw [inflate]
  cases Gzip.decompress? bytes with
  | some data => exact .pure data asked
  | none => exact .throw _ asked

theorem yields_fetchInflated (name : String) (asked : Array String) :
    (l.fetchInflated name).Yields asked ((l.store name).toOption.bind Gzip.decompress?) :=
  (l.yields_fetch name asked).bind fun bytes asked => yields_inflate name bytes asked

/-- How a fetch goes wrong depends on the store alone. -/
theorem attempt_fetchInflated (name : String) (asked : Array String) :
    (l.fetchInflated name).attempt asked = .ok
      (match l.store name with
        | .ok bytes => (Gzip.decompress? bytes).elim (.error (.inflate name)) .ok
        | .error .notFound => .error (.notFound name)
        | .error (.io cause) => .error (.io name cause)) (asked.push name) := by
  simp only [Loading.attempt, fetchInflated, bind, EStateM.bind, fetch]
  cases l.store name with
  | ok bytes =>
    simp only [inflate]
    cases Gzip.decompress? bytes <;> rfl
  | error e => cases e <;> rfl

/-- **A single file is loaded from its entry.** -/
theorem yields_fetchFile (name : String) (asked : Array String) : (l.fetchFile name).Yields asked (l.stored? name) := by
  refine yields_bind_of_ok (l.attempt_fetchInflated (l.filePath name) asked) ?_
  rw [stored?]
  cases l.store (l.filePath name) with
  | ok bytes =>
    dsimp only
    cases Gzip.decompress? bytes with
    | some data => exact .pure data _
    | none => exact .throw _ _
  | error e =>
    cases e with
    | notFound =>
      dsimp only
      cases olderName? name with
      | some older => exact l.yields_fetchInflated (l.filePath older) _
      | none => exact .throw _ _
    | io cause => exact .throw _ _

/-- The entries of these names, in order. -/
def entries (names : List String) : List (String × ByteArray) :=
  names.filterMap fun name => (l.stored? name).map (name, ·)

theorem yields_fetchMembers (names : List String) (asked : Array String) :
    (l.fetchMembers names).Yields asked (some (l.entries names)) := by
  induction names generalizing asked with
  | nil => exact .pure [] asked
  | cons name names ih =>
    obtain ⟨result, asked', hattempt, hstored⟩ := (l.yields_fetchFile name asked).attempt
    refine yields_bind_of_ok hattempt ?_
    rw [entries, List.filterMap_cons, ← hstored]
    cases result with
    | ok data => exact (ih asked').bind fun files asked => .pure ((name, data) :: files) asked
    | error e => exact ih asked'

theorem attempt_fetch (name : String) (asked : Array String) :
    (l.fetch name).attempt asked = .ok
      (match l.store name with
        | .ok bytes => .ok bytes
        | .error .notFound => .error (.notFound name)
        | .error (.io cause) => .error (.io name cause)) (asked.push name) := by
  simp only [Loading.attempt, fetch]
  cases l.store name with
  | ok bytes => rfl
  | error e => cases e <;> rfl

theorem yields_fetchManifest (kind : BundleKind) (name : String) (asked : Array String) :
    (l.fetchManifest kind name).Yields asked (l.storedManifest? kind name) := by
  refine yields_bind_of_ok (l.attempt_fetch _ asked) ?_
  rw [storedManifest?]
  dsimp only
  generalize l.directory kind ++ "/" ++ name ++ ".json" = plain
  cases l.store plain with
  | ok bytes => exact .pure (plain, bytes) _
  | error e =>
    cases e with
    | notFound =>
      rw [Option.map_eq_bind]
      exact (l.yields_fetch (plain ++ ".gz") _).bind fun bytes asked => .pure (plain ++ ".gz", bytes) asked
    | io cause => exact .throw _ _

/-- The files of a bundle with this manifest. -/
def files : Manifest → List (String × ByteArray)
  | .members names => l.entries (Manifest.members names).names
  | .inline files => files.map fun (name, text) => (name, text.toUTF8)

/-- **A bundle is loaded from its manifest.** -/
theorem yields_fetchBundle (kind : BundleKind) (name : String) (asked : Array String) :
    (l.fetchBundle kind name).Yields asked ((l.manifest? kind name).map l.files) := by
  rw [manifest?, Option.map_bind]
  refine (l.yields_fetchManifest kind name asked).bind fun stored asked => ?_
  obtain ⟨manifestName, stored⟩ := stored
  change Yields _ asked ((Manifest.ofBytes? stored).map l.files)
  rw [Manifest.ofBytes?, Option.map_bind]
  -- the rest is the same whether the bytes are decompressed or not
  refine yields_ite_bind (yields_inflate manifestName stored asked) (.pure stored asked) fun text asked => ?_
  change Yields _ asked (((Json.ofBytes? text).bind Manifest.ofJson?).map l.files)
  dsimp only
  cases (Json.ofBytes? text).bind Manifest.ofJson? with
  | none => exact .throw _ _
  | some manifest =>
    cases manifest with
    | members names => exact l.yields_fetchMembers _ _
    | inline files => exact .pure _ _

/-- A library with a manifest in the second place and one member, which is stored under its older name. -/
def oldLibrary : Loader where
  layout := .standard
  store
    | "tikz_libs/a.json.gz" => .ok "[\"\", \"tikzlibrarya.code.tex\"]".toUTF8
    | "tex_files/pgflibrarya.code.tex.gz" =>
      .ok [0x1F, 0x8B, 8, 0, 0, 0, 0, 0, 0, 0xFF, 1, 1, 0, 0xFE, 0xFF, 0x43, 0xA7, 0xFF, 0xD7, 0x3D, 1, 0, 0,
        0].toByteArray
    | _ => .error .notFound

example : (oldLibrary.manifest? .library "a").map oldLibrary.files = some [("tikzlibrarya.code.tex", "C".toUTF8)] := by
  decide +kernel

/-! ## What is supplied last -/

theorem lookup_map {α β : Type} (g : α → β) (files : List (String × α)) (name : String) :
    (files.map fun (n, content) => (n, g content)).lookup name = (files.lookup name).map g := by
  induction files with
  | nil => rfl
  | cons file files ih =>
    rw [List.map_cons, List.lookup_cons, List.lookup_cons, ih]
    cases name == file.1 <;> rfl

theorem lookup_entries (names : List String) (name : String) :
    (l.entries names).lookup name = if name ∈ names then l.stored? name else none := by
  induction names with
  | nil => rfl
  | cons first names ih =>
    rw [entries, List.filterMap_cons]
    by_cases hname : name = first
    · subst hname
      rw [if_pos List.mem_cons_self]
      cases hstored : l.stored? name with
      | some data => exact List.lookup_cons_self
      | none =>
        -- a name without an entry has none further on either
        refine ih.trans ?_
        rw [hstored, ite_self]
    · have hrest : name ∈ first :: names ↔ name ∈ names := by rw [List.mem_cons, or_iff_right hname]
      rw [if_congr hrest rfl rfl, ← ih]
      cases l.stored? first with
      | some data => exact (List.lookup_cons ..).trans (by rw [beq_false_of_ne hname]; rfl)
      | none => rfl

theorem lookup_files (manifest : Manifest) (name : String) :
    (l.files manifest).reverse.lookup name = manifest.supplied? l name := by
  cases manifest with
  | members names =>
    rw [files, entries, ← List.filterMap_reverse]
    refine (l.lookup_entries _ name).trans (if_congr ?_ rfl rfl)
    simp [Manifest.names]
  | inline files =>
    rw [Loader.files, ← List.map_reverse]
    exact lookup_map String.toUTF8 files.reverse name

/-- Of what several manifests supply for one name the last counts. -/
theorem lookup_flatMap_files (manifests : List Manifest) (name : String) :
    (manifests.flatMap l.files).reverse.lookup name =
      manifests.reverse.findSome? fun manifest => manifest.supplied? l name := by
  induction manifests with
  | nil => rfl
  | cons manifest manifests ih =>
    rw [List.flatMap_cons, List.reverse_append, List.lookup_append, ih, lookup_files, List.reverse_cons,
      List.findSome?_append, List.findSome?_singleton]

end Loader

theorem Desk.getElem?_insertAll (d : Desk) (files : List (String × ByteArray)) (name : String) :
    (d.insertAll files).contents[name]? = (files.reverse.lookup name).or d.contents[name]? := by
  induction files generalizing d with
  | nil => rfl
  | cons file files ih =>
    rw [insertAll, List.foldl_cons]
    refine (ih _).trans ?_
    rw [List.reverse_cons, List.lookup_append, Option.or_assoc, insert, Std.HashMap.getElem?_insert]
    by_cases hname : file.1 = name
    · rw [if_pos (beq_iff_eq.mpr hname), ← hname, List.lookup_cons_self, Option.some_or]
    · rw [if_neg (mt beq_iff_eq.mp hname), List.lookup_cons, beq_false_of_ne (Ne.symm hname)]
      rfl

theorem Desk.insertAll_append (d : Desk) (files more : List (String × ByteArray)) :
    d.insertAll (files ++ more) = (d.insertAll files).insertAll more := List.foldl_append

/-! ## Setting out -/

namespace Typesetter
open Loading

variable {σ : Type} (t : Typesetter σ)

/-- The manifests of bundles, if all of them have one. -/
def manifests? (bundles : List (BundleKind × String)) : Option (List Manifest) :=
  bundles.mapM fun bundle => t.loader.manifest? bundle.1 bundle.2

/-- The same typesetter with another engine. -/
def withEngine {τ : Type} (engine : Engine τ) : Typesetter τ :=
  { config := t.config, engine, image := t.image, loader := t.loader, fonts := t.fonts, clock := t.clock }

theorem yields_preload (bundles : List (BundleKind × String)) (d : Desk) (asked : Array String) :
    (t.preload bundles d).Yields asked
      ((t.manifests? bundles).map fun manifests => d.insertAll (manifests.flatMap t.loader.files)) := by
  induction bundles generalizing d asked with
  | nil => exact .pure d asked
  | cons bundle bundles ih =>
    have hcons : ((t.manifests? (bundle :: bundles)).map fun manifests =>
        d.insertAll (manifests.flatMap t.loader.files)) =
          ((t.loader.manifest? bundle.1 bundle.2).map t.loader.files).bind fun files =>
            (t.manifests? bundles).map fun manifests =>
              (d.insertAll files).insertAll (manifests.flatMap t.loader.files) := by
      simp only [manifests?, List.mapM_cons]
      cases t.loader.manifest? bundle.1 bundle.2 with
      | none => rfl
      | some manifest =>
        cases bundles.mapM fun bundle => t.loader.manifest? bundle.1 bundle.2 with
        | none => rfl
        | some manifests =>
          exact congrArg some (Desk.insertAll_append ..)
    rw [hcons]
    exact (t.loader.yields_fetchBundle bundle.1 bundle.2 asked).bind fun files asked => ih (d.insertAll files) asked

theorem preload_withEngine {τ : Type} (engine : Engine τ) (bundles : List (BundleKind × String)) :
    (t.withEngine engine).preload bundles = t.preload bundles := by
  induction bundles with
  | nil => rfl
  | cons bundle bundles ih =>
    funext d
    rw [preload, preload, ih]
    rfl

/-- **The engine starts with what the request names.**  If every package and every library of a
request has a manifest, then the desk that the engine starts with has for every name the
document of the request, if that is the name of the input file, and otherwise what the last of
the manifests that supply anything for the name supplies, where the libraries come after the
packages, each in the order of the request.  If one has none, then the request fails, and the
engine has no part in it. -/
theorem setOut_supplies (r : Request) :
    match t.manifests? (r.options.packages.map (fun package => (.package, package.name)) ++
        r.options.libraries.map fun library => (.library, library)) with
    | some manifests => ∃ desk asked, t.setOut r #[] = .ok desk asked ∧
        ∀ name, desk.contents[name]? =
          if name = t.config.inputFile then some r.document.toUTF8
          else manifests.reverse.findSome? fun manifest => manifest.supplied? t.loader name
    | none => ∃ cause asked, t.setOut r #[] = .error cause asked ∧
        ∀ (τ : Type) (engine : Engine τ),
          (t.withEngine engine).typeset r = (.error (.resource cause), { asked, shown := #[] }) := by
  rw [← Options.bundles]
  let start : Desk := .start t.config.script.toUTF8 t.fonts
  have hpreload := t.yields_preload r.options.bundles start #[]
  cases hmanifests : t.manifests? r.options.bundles with
  | some manifests =>
    rw [hmanifests] at hpreload
    obtain ⟨asked, hpreload⟩ := hpreload
    have hsetOut : t.setOut r #[] =
        .ok ((start.insertAll (manifests.flatMap t.loader.files)).insert t.config.inputFile r.document.toUTF8) asked :=
      bind_of_ok hpreload
    refine ⟨_, asked, hsetOut, fun name => ?_⟩
    have hnothing : start.contents[name]? = none := Std.HashMap.getElem?_empty
    rw [Desk.insert, Std.HashMap.getElem?_insert, Desk.getElem?_insertAll, hnothing, Option.or_none,
      t.loader.lookup_flatMap_files]
    exact if_congr (beq_iff_eq.trans eq_comm) rfl rfl
  | none =>
    rw [hmanifests] at hpreload
    obtain ⟨cause, asked, hpreload⟩ := hpreload
    have hsetOut : t.setOut r #[] = .error cause asked := bind_of_error hpreload
    refine ⟨cause, asked, hsetOut, fun τ engine => ?_⟩
    have hsame : (t.withEngine engine).setOut r #[] = .error cause asked := by
      rw [setOut, preload_withEngine]
      exact hsetOut
    rw [typeset, hsame]

end Typesetter
end Galley
