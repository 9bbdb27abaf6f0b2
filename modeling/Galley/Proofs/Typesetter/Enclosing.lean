import Galley.Proofs.Disk.Lexical
import Galley.Proofs.File.Lines
import Galley.Proofs.Session.Reciting
import Galley.Proofs.Typesetter.Asking

/-! # Where the store of a directory is made to look

The places of a bundle or of a file are made of its name: a directory stands before it, and an
extension behind it.  So its last part is always the plain name of an entry, and what stands
before its last slash, its `Disk.foldersOf`, leads about from one level below the store.

In the standard layout a name is sought inside the store, whatever directory that is, exactly if
its folders never lead above the store (`Typesetter.sought_encloses_iff`): nothing takes the
steps out of a name.  A package with two steps up makes the store look outside
(`Typesetter.package_outside_store`). -/
namespace Galley

namespace Disk

/-- The names in a path that stand before its last slash. -/
def foldersOf (path : String) : List String :=
  ((path.toList.splitOn '/').dropLast.map String.ofList).filter (! ·.isEmpty)

variable {text front front' extension folder : String} {depth : Nat}

/-! ## Parts of a step -/

/-- A text that makes a step plain wherever it is a part of it: it has no slash, and something
else than dots. -/
structure IsSolid (text : String) : Prop where
  slash : text.toList.any (· == '/') = false
  other : text.toList.any (· != '.') = true

theorem IsSolid.isPlain_of_subset (h : IsSolid text) {step : String} (hsubset : text.toList ⊆ step.toList) :
    IsPlain step := by
  obtain ⟨c, hmem, hc⟩ := List.any_eq_true.mp h.other
  have hne : c ≠ '.' := by simpa using hc
  constructor
  · rintro rfl
    exact hne (List.mem_singleton.mp (hsubset hmem))
  · rintro rfl
    exact hne (by simpa using hsubset hmem)

theorem IsSolid.isEmpty_of_subset (h : IsSolid text) {step : String} (hsubset : text.toList ⊆ step.toList) :
    step.isEmpty = false := by
  rw [← Bool.not_eq_true, String.isEmpty_iff]
  rintro rfl
  obtain ⟨c, hmem, -⟩ := List.any_eq_true.mp h.other
  cases hsubset hmem

theorem IsSolid.not_slash (h : IsSolid text) {c : Char} (hmem : c ∈ text.toList) : (c == '/') = false :=
  Bool.eq_false_iff.mpr (List.any_eq_false.mp h.slash c hmem)

theorem subset_append_left (text more : String) : text.toList ⊆ (text ++ more).toList := by
  rw [String.toList_append]
  exact List.subset_append_left _ _

theorem subset_append_right (more text : String) : text.toList ⊆ (more ++ text).toList := by
  rw [String.toList_append]
  exact List.subset_append_right _ _

theorem namesOf_of_isSolid (h : IsSolid text) : namesOf text = [text] := by
  have hwhole : text.toList.splitOnP (· == '/') = [text.toList] :=
    List.splitOnP_eq_singleton fun c hc => h.not_slash hc
  have hnonempty : text.isEmpty = false := h.isEmpty_of_subset (List.Subset.refl _)
  rw [namesOf, List.splitOn_eq_splitOnP, hwhole, List.map_singleton, String.ofList_toList, List.filter_singleton,
    hnonempty]
  rfl

theorem isRelative_append (h : IsSolid text) (rest : String) : IsRelative (text ++ rest) := by
  intro hslash
  rw [String.toList_append, List.head?_append] at hslash
  cases hhead : text.toList.head? with
  | none =>
    obtain ⟨c, hmem, -⟩ := List.any_eq_true.mp h.other
    rw [List.head?_eq_none_iff.mp hhead] at hmem
    cases hmem
  | some c =>
    rw [hhead] at hslash
    obtain rfl : c = '/' := Option.some.inj hslash
    cases h.not_slash (List.mem_of_head? hhead)

/-! ## An extension behind a name, and a directory before it -/

theorem exists_namesOf_append (h : IsSolid extension) (path : String) :
    ∃ name, namesOf (path ++ extension) = foldersOf path ++ [name ++ extension] := by
  obtain ⟨folders, last, hsplit, hlast, hfollow⟩ := exists_last_splitOnP (· == '/') path.toList
  have hwhole : (last ++ extension.toList).splitOnP (· == '/') = [last ++ extension.toList] :=
    List.splitOnP_eq_singleton fun c hc => (List.mem_append.mp hc).elim (hlast c) h.not_slash
  have hfolders : foldersOf path = (folders.map String.ofList).filter (! ·.isEmpty) := by
    rw [foldersOf, List.splitOn_eq_splitOnP, hsplit, List.dropLast_concat]
  have hname : String.ofList (last ++ extension.toList) = String.ofList last ++ extension := by
    rw [String.ofList_append, String.ofList_toList]
  have hnonempty : (String.ofList last ++ extension).isEmpty = false := h.isEmpty_of_subset (subset_append_right _ _)
  refine ⟨.ofList last, ?_⟩
  rw [namesOf, String.toList_append, List.splitOn_eq_splitOnP, hfollow, hwhole, List.map_append, List.filter_append,
    hfolders, List.map_singleton, hname, List.filter_singleton, hnonempty]
  rfl

/-- **What is kept in a directory of a store under a name stays in the store exactly if the folders
of the name stay in it**, from one level below. -/
theorem encloses_place_iff (hfolder : IsSolid folder) (hextension : IsSolid extension) (name : String) :
    (∀ d directory, Encloses d directory (join directory (folder ++ "/" ++ name ++ extension))) ↔
      staysBelow 1 (foldersOf name) = true := by
  have hassoc : folder ++ "/" ++ name ++ extension = folder ++ ("/" ++ name ++ extension) := by
    simp only [String.append_assoc]
  have hrelative : IsRelative (folder ++ "/" ++ name ++ extension) := hassoc ▸ isRelative_append hfolder _
  obtain ⟨last, hlast⟩ := exists_namesOf_append hextension name
  have hnames : namesOf (folder ++ "/" ++ name ++ extension) = folder :: (foldersOf name ++ [last ++ extension]) := by
    rw [String.append_assoc, namesOf_append_slash, namesOf_of_isSolid hfolder, hlast]
    rfl
  have hfirst : IsPlain folder := hfolder.isPlain_of_subset (List.Subset.refl _)
  have hend : IsPlain (last ++ extension) := hextension.isPlain_of_subset (subset_append_right _ _)
  rw [encloses_join_iff hrelative, hnames, staysBelow_plain hfirst, staysBelow_concat hend]

example : staysBelow 1 (foldersOf "a/../../x") = true ∧ staysBelow 1 (foldersOf "a/../../../x") = false := ⟨rfl, rfl⟩

/-! ## Another beginning of a name -/

theorem splitOnP_append_of_any {α : Type} {p : α → Bool} {xs : List α} (h : xs.any p = false) (ys : List α) :
    (xs ++ ys).splitOnP p = (ys.splitOnP p).modifyHead (xs ++ ·) := by
  induction xs with
  | nil =>
    rw [List.nil_append]
    cases ys.splitOnP p <;> rfl
  | cons x xs ih =>
    rw [List.any_cons, Bool.or_eq_false_iff] at h
    rw [List.cons_append, List.splitOnP_cons_eq_if_modifyHead, h.1, ih h.2]
    cases ys.splitOnP p <;> rfl

theorem foldersOf_append (h : IsSolid front) {rest : String} {first : List Char} {more : List (List Char)}
    (hrest : rest.toList.splitOnP (· == '/') = first :: more) : foldersOf (front ++ rest) =
      if more = [] then []
      else (front ++ .ofList first) :: (more.dropLast.map String.ofList).filter (! ·.isEmpty) := by
  have hnonempty : (front ++ String.ofList first).isEmpty = false := h.isEmpty_of_subset (subset_append_left _ _)
  rw [foldersOf, String.toList_append, List.splitOn_eq_splitOnP, splitOnP_append_of_any h.slash, hrest,
    List.modifyHead_cons]
  cases more with
  | nil => rfl
  | cons next more =>
    rw [List.dropLast_cons_cons, List.map_cons, String.ofList_append, String.ofList_toList, List.filter_cons,
      hnonempty]
    rfl

/-- One beginning of a name may be put in the place of another. -/
theorem staysBelow_foldersOf_append (hfront : IsSolid front) (hfront' : IsSolid front') (rest : String) :
    staysBelow depth (foldersOf (front ++ rest)) = staysBelow depth (foldersOf (front' ++ rest)) := by
  obtain ⟨first, more, hrest⟩ := List.exists_cons_of_ne_nil (List.splitOnP_ne_nil (· == '/') rest.toList)
  rw [foldersOf_append hfront hrest, foldersOf_append hfront' hrest]
  split
  · rfl
  · rw [staysBelow_plain (hfront.isPlain_of_subset (subset_append_left _ _)),
      staysBelow_plain (hfront'.isPlain_of_subset (subset_append_left _ _))]

end Disk

/-! ## The standard layout -/

namespace Loader
open Disk

variable {l : Loader}

theorem isSolid_directory (hlayout : l.layout = .standard) (kind : BundleKind) : IsSolid (l.directory kind) := by
  cases kind with
  | package =>
    change IsSolid l.layout.packages
    rw [hlayout]
    exact ⟨rfl, rfl⟩
  | library =>
    change IsSolid l.layout.libraries
    rw [hlayout]
    exact ⟨rfl, rfl⟩

theorem isSolid_files (hlayout : l.layout = .standard) : IsSolid l.layout.files := by
  rw [hlayout]
  exact ⟨rfl, rfl⟩

theorem isSolid_gz : IsSolid ".gz" := ⟨rfl, rfl⟩

/-- The manifest of a bundle is sought inside exactly if the folders of its name stay inside. -/
theorem manifestPlaces_encloses_iff (hlayout : l.layout = .standard) {kind : BundleKind} {name place : String}
    (hplace : place ∈ l.manifestPlaces kind name) :
    (∀ d directory, Encloses d directory (join directory place)) ↔ staysBelow 1 (foldersOf name) = true := by
  have hdirectory := isSolid_directory hlayout kind
  rcases List.mem_pair.mp hplace with rfl | rfl
  · exact encloses_place_iff hdirectory ⟨rfl, rfl⟩ name
  · have hgz : l.directory kind ++ "/" ++ name ++ ".json" ++ ".gz" = l.directory kind ++ "/" ++ name ++ ".json.gz" :=
      String.append_assoc
    rw [hgz]
    exact encloses_place_iff hdirectory ⟨rfl, rfl⟩ name

/-- The older name of a file leads where the newer one does. -/
theorem staysBelow_of_older {name older : String} (holder : olderName? name = some older) (depth : Nat) :
    staysBelow depth (foldersOf older) = staysBelow depth (foldersOf name) := by
  rw [olderName?, Option.map_eq_some_iff] at holder
  obtain ⟨rest, hrest, rfl⟩ := holder
  have hname : name = libraryFront ++ .ofList rest := by
    rw [← String.toList_inj, String.toList_append, String.toList_ofList]
    exact (List.isPrefixOf?_eq_some_iff_append_eq.mp hrest).symm
  rw [hname]
  exact staysBelow_foldersOf_append ⟨rfl, rfl⟩ ⟨rfl, rfl⟩ _

/-- A file is sought inside exactly if the folders of its name stay inside. -/
theorem filePlaces_encloses_iff (hlayout : l.layout = .standard) {name place : String}
    (hplace : place ∈ l.filePlaces name) :
    (∀ d directory, Encloses d directory (join directory place)) ↔ staysBelow 1 (foldersOf name) = true := by
  have hfiles := isSolid_files hlayout
  rw [filePlaces, List.mem_cons] at hplace
  rcases hplace with rfl | holder
  · exact encloses_place_iff hfiles isSolid_gz name
  · obtain ⟨older, hmem, rfl⟩ := List.mem_map.mp holder
    rw [← staysBelow_of_older (Option.mem_toList.mp hmem)]
    exact encloses_place_iff hfiles isSolid_gz older

/-- The engine and its image lie in the store. -/
theorem engine_encloses (hlayout : l.layout = .standard) {place : String}
    (hplace : place ∈ [l.layout.engine, l.layout.snapshot]) (d : Disk) (directory : String) :
    Encloses d directory (join directory place) := by
  rw [hlayout] at hplace
  revert d directory
  rcases List.mem_pair.mp hplace with rfl | rfl
  · exact (encloses_join_iff (by decide)).mpr rfl
  · exact (encloses_join_iff (by decide)).mpr rfl

end Loader

namespace Typesetter
open Disk Loader

variable {σ : Type}

/-- **A name is sought inside the store exactly if its folders stay inside.** -/
theorem sought_encloses_iff {t : Typesetter σ} {r : Request} (hlayout : t.loader.layout = .standard)
    {name place : String} (h : t.Sought r name place) :
    (∀ d directory, Encloses d directory (join directory place)) ↔ staysBelow 1 (foldersOf name) = true := by
  cases h with
  | bundle _ hplace => exact manifestPlaces_encloses_iff hlayout hplace
  | member _ _ hplace => exact filePlaces_encloses_iff hlayout hplace
  | missed _ hplace => exact filePlaces_encloses_iff hlayout hplace

/-- **What the store of a directory is asked for.**  In the standard layout every name that reaches
the store is that of the engine or of its image, which lie inside, or it is made of the name of a
bundle of the request, of a member of such a bundle, or of a file that the guest has missed.  Joined
to the directory of the store, whichever that is, it leads inside exactly if the part of that name
before its last slash never leads more than one level above where it starts. -/
theorem asked_inside_store (t : Typesetter σ) (r : Request) (hlayout : t.loader.layout = .standard) :
    (∀ a ∈ askedAfter (t.loader.loadEngine #[]), ∀ d directory, Encloses d directory (join directory a)) ∧
      ∀ a ∈ (t.typeset r).2.asked, ∃ name, t.Sought r name a ∧
        ((∀ d directory, Encloses d directory (join directory a)) ↔ staysBelow 1 (foldersOf name) = true) := by
  constructor
  · intro a hmem
    have hplace := (t.loader.asksOnly_loadEngine #[] a hmem).resolve_left (Array.not_mem_empty a)
    exact engine_encloses hlayout hplace
  · intro a hmem
    obtain ⟨name, hsought⟩ := t.sought_of_asked r a hmem
    exact ⟨name, hsought, sought_encloses_iff hlayout hsought⟩

/-- A store in `/srv/assets` with a file above its packages, and another one beside the store. -/
def shelf : Disk where
  root := .directory [("srv", .directory [
    ("assets", .directory [("packages", .directory []), ("x.json", .file "x".toUTF8)]),
    ("x.json", .file "x".toUTF8)])]
  here := []

/-- A standard setting with that store, and an engine that does nothing. -/
def shelving : Typesetter (List (Call Int32)) where
  config := .standard
  engine := .reciting []
  image := .empty
  loader := { store := .ofDirectory shelf "/srv/assets", layout := .standard }
  fonts := .empty
  clock := .fixed

/-- A request for one package. -/
def packaged (package : String) : Request where
  source := ""
  options := { Options.plain with packages := [{ name := package, options := none }] }

/-- Neither file is a manifest, so nothing more is asked for. -/
theorem asked_shelving {package place : String} (hplace : "packages" ++ "/" ++ package ++ ".json" = place)
    (hstore : shelving.loader.store place = .ok "x".toUTF8) :
    (shelving.typeset (packaged package)).2.asked = #[place] := by
  have hplain : shelving.loader.directory .package ++ "/" ++ package ++ ".json" = place := hplace
  have hbundle : shelving.loader.fetchBundle .package package #[] = .error (.manifest place) #[place] := by
    simp only [fetchBundle, fetchManifest, bind, EStateM.bind, Loading.attempt, fetch, hplain, hstore]
    rfl
  have hsetOut : shelving.setOut (packaged package) #[] = .error (.manifest place) #[place] :=
    bind_of_error (bind_of_error hbundle)
  rw [typeset, hsetOut]

/-- What the store has in a place, where the walk to it ends at these names. -/
theorem store_shelving {place : String} (names : List String)
    (hchecked : '\x00' ∉ (join "/srv/assets" place).toList ∧ (join "/srv/assets" place).utf8ByteSize ≤ maxPath ∧
      join "/srv/assets" place ≠ "")
    (hwalk : resolved <$> walk shelf.root (shelf.start (join "/srv/assets" place)).reverse
      (steps (join "/srv/assets" place)) = .ok names)
    (hnode : shelf.root.node? names = some (.file "x".toUTF8)) : shelving.loader.store place = .ok "x".toUTF8 := by
  have hlocate := (locate_of_checked (checked_eq_ok_iff.mpr ⟨rfl, hchecked⟩) shelf).trans hwalk
  change Store.ofDirectory shelf "/srv/assets" place = _
  rw [Store.ofDirectory, read_of_locate hlocate hnode]

/-- With one step up a package is sought inside the store. -/
theorem package_inside_store :
    shelving.loader.layout = .standard ∧ (shelving.typeset (packaged "../x")).2.asked = #["packages/../x.json"] ∧
      ∃ name, shelving.Sought (packaged "../x") name "packages/../x.json" ∧
        ((∀ d directory, Encloses d directory (join directory "packages/../x.json")) ↔
          staysBelow 1 (foldersOf name) = true) := by
  have hstore : shelving.loader.store "packages/../x.json" = .ok "x".toUTF8 :=
    store_shelving ["srv", "assets", "x.json"] (by decide) rfl rfl
  have hasked : (shelving.typeset (packaged "../x")).2.asked = #["packages/../x.json"] :=
    asked_shelving rfl hstore
  refine ⟨rfl, hasked, (asked_inside_store shelving (packaged "../x") rfl).2 _ ?_⟩
  rw [hasked]
  exact Array.mem_singleton.mpr rfl

/-- **With two steps up it is sought outside**, and there is what it finds. -/
theorem package_outside_store :
    shelving.loader.layout = .standard ∧ (shelving.typeset (packaged "../../x")).2.asked = #["packages/../../x.json"] ∧
      ¬ shelf.Encloses "/srv/assets" (join "/srv/assets" "packages/../../x.json") ∧
      shelving.loader.store "packages/../../x.json" = .ok "x".toUTF8 := by
  have hstore : shelving.loader.store "packages/../../x.json" = .ok "x".toUTF8 :=
    store_shelving ["srv", "x.json"] (by decide) rfl rfl
  refine ⟨rfl, asked_shelving rfl hstore, ?_, hstore⟩
  rw [Encloses]
  decide

end Typesetter
end Galley
