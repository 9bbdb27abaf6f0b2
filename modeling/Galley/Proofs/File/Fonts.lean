import Galley.File.Desk
import Galley.Proofs.Disk.Lexical
import Mathlib.Data.List.Basic

/-! # Which font file answers a name

A directory of fonts is loaded by the names of its files, each without its extension, and a
read of a metric file asks for its name without *all* of its extensions.  So what can answer a
name is the file of that name with one extension only (`FileName.single`), and it is the file
of the very name exactly if the name has one extension (`single_eq_iff`).  A name with several
is never answered by its own file, and is answered by another one if that is there
(`FontTable.opens_single`). -/
namespace Galley

/-! ## Names of metric files -/

namespace FileName
variable {name stem font : String}

/-- The metric file of a font. -/
def metricFile (font : String) : String := font ++ fontExtension

/-- The name with one font extension in the place of all that it has. -/
def single (name : String) : String := metricFile (fontOf name)

theorem isFontMetric_iff : isFontMetric name = true ↔ ∃ font, name = metricFile font := by
  rw [isFontMetric, hasEnding, List.isSuffixOf_iff_suffix]
  constructor
  · rintro ⟨front, hname⟩
    exact ⟨.ofList front, String.toList_inj.mp (by simp [metricFile, hname])⟩
  · rintro ⟨font, rfl⟩
    exact ⟨font.toList, by simp [metricFile]⟩

theorem isFontMetric_metricFile (font : String) : isFontMetric (metricFile font) = true :=
  isFontMetric_iff.mpr ⟨font, rfl⟩

theorem metricFile_inj {font' : String} (h : metricFile font = metricFile font') : font = font' := by
  have hlist := congrArg String.toList h
  simp only [metricFile, String.toList_append] at hlist
  exact String.toList_inj.mp (List.append_cancel_right hlist)

/-- An extension does not count. -/
theorem fontOf_metricFile (stem : String) : fontOf (metricFile stem) = fontOf stem := by
  have hreverse : (metricFile stem).toList.reverse = 'm' :: 'f' :: 't' :: '.' :: stem.toList.reverse := by
    simp [metricFile, fontExtension]
  rw [fontOf, hreverse, dropExtensions, fontOf]

/-- A name without the extension is that of a font. -/
theorem fontOf_eq_self (h : isFontMetric name = false) : fontOf name = name := by
  have hdrop : dropExtensions name.toList.reverse = name.toList.reverse := by
    rw [dropExtensions]
    intro rest hrest
    have hname : name = metricFile (.ofList rest.reverse) := by
      rw [← String.toList_inj, ← List.reverse_inj, hrest]
      simp [metricFile, fontExtension]
    rw [hname, isFontMetric_metricFile] at h
    cases h
  rw [fontOf, hdrop, List.reverse_reverse, String.ofList_toList]

theorem length_fontOf_le (name : String) : (fontOf name).toList.length ≤ name.toList.length := by
  have hdrop (cs : List Char) : (dropExtensions cs).length ≤ cs.length := by
    fun_induction dropExtensions cs with
    | case1 rest ih =>
      simp only [List.length_cons]
      omega
    | case2 => exact Nat.le_refl _
  have hname := hdrop name.toList.reverse
  rw [List.length_reverse] at hname
  rwa [fontOf, String.toList_ofList, List.length_reverse]

/-- A metric file is the one for its name exactly if that has one extension. -/
theorem single_eq_iff (stem : String) : single (metricFile stem) = metricFile stem ↔ isFontMetric stem = false := by
  rw [single, fontOf_metricFile]
  constructor
  · intro h
    have hstem : fontOf stem = stem := metricFile_inj h
    by_contra hmetric
    obtain ⟨shorter, rfl⟩ := isFontMetric_iff.mp (Bool.not_eq_false _ ▸ hmetric)
    have hle := length_fontOf_le shorter
    rw [fontOf_metricFile] at hstem
    rw [hstem] at hle
    simp only [metricFile, fontExtension, String.toList_append, List.length_append] at hle
    change _ + 4 ≤ _ at hle
    omega
  · intro h
    rw [fontOf_eq_self h]

end FileName

/-! ## The table of a directory -/

/-- The content of a regular file among the entries of a directory. -/
def FileTree.fileIn? (entries : List (String × FileTree)) (name : String) : Option ByteArray :=
  match entries.lookup name with
  | some (.file content) => some content
  | _ => none

namespace FontTable
open FileName FileTree

variable {files : List (String × ByteArray)} {font name : String}

/-- A file is loaded for the font whose metric file it is, if that has a name. -/
theorem fontOfFile?_eq_some_iff : fontOfFile? name = some font ↔ font ≠ "" ∧ name = metricFile font := by
  have htake (stem : String) :
      String.ofList ((metricFile stem).toList.take ((metricFile stem).length - fontExtension.length)) = stem := by
    have hlength : (metricFile stem).length - fontExtension.length = stem.toList.length := by
      rw [metricFile, String.length_append, Nat.add_sub_cancel, String.length_toList]
    rw [hlength, metricFile, String.toList_append, List.take_left, String.ofList_toList]
  rw [fontOfFile?]
  constructor
  · intro h
    split at h
    next hfits =>
      rw [Bool.and_eq_true] at hfits
      obtain ⟨stem, rfl⟩ := isFontMetric_iff.mp hfits.1
      rw [htake] at h hfits
      obtain rfl := Option.some.inj h
      exact ⟨by simpa using hfits.2, rfl⟩
    next => cases h
  · rintro ⟨hne, rfl⟩
    simp only [htake, isFontMetric_metricFile, Bool.true_and]
    rw [if_pos (by simpa using hne)]

/-- The table with one more file. -/
def add (table : FontTable) (file : String × ByteArray) : FontTable :=
  match fontOfFile? file.1 with
  | some font => table.insert font file.2
  | none => table

theorem getElem?_add (table : FontTable) (file : String × ByteArray) (font : String) :
    (table.add file)[font]? = if font ≠ "" ∧ file.1 = metricFile font then some file.2 else table[font]? := by
  rw [add]
  cases hfont : fontOfFile? file.1 with
  | some other =>
    obtain ⟨hne, hother⟩ := fontOfFile?_eq_some_iff.mp hfont
    rw [Std.HashMap.getElem?_insert]
    by_cases hsame : other = font
    · subst hsame
      rw [if_pos (beq_self_eq_true other), if_pos ⟨hne, hother⟩]
    · rw [if_neg (by simpa using hsame), if_neg]
      rintro ⟨-, hfile⟩
      exact hsame (metricFile_inj (hother.symm.trans hfile))
  | none =>
    rw [if_neg]
    rintro h
    rw [fontOfFile?_eq_some_iff.mpr h] at hfont
    cases hfont

theorem lookup_eq_none (h : name ∉ files.map Prod.fst) : files.lookup name = none := by
  induction files with
  | nil => rfl
  | cons file files ih =>
    rw [List.map_cons, List.mem_cons, not_or] at h
    rw [List.lookup_cons, beq_false_of_ne h.1]
    exact ih h.2

theorem getElem?_foldl_add (hnames : (files.map Prod.fst).Nodup) (table : FontTable) (hne : font ≠ "") :
    (files.foldl add table)[font]? = (files.lookup (metricFile font)).or table[font]? := by
  induction files generalizing table with
  | nil => rfl
  | cons file files ih =>
    rw [List.map_cons, List.nodup_cons] at hnames
    rw [List.foldl_cons, ih hnames.2, getElem?_add, List.lookup_cons]
    by_cases hfile : file.1 = metricFile font
    · -- no other file has the name, so the one that is added stays
      rw [if_pos ⟨hne, hfile⟩, ← hfile, lookup_eq_none hnames.1, beq_self_eq_true]
      rfl
    · rw [if_neg fun h => hfile h.2, beq_false_of_ne (Ne.symm hfile)]

theorem getElem?_foldl_add_nothing (table : FontTable) : (files.foldl add table)[""]? = table[""]? := by
  induction files generalizing table with
  | nil => rfl
  | cons file files ih =>
    rw [List.foldl_cons, ih, getElem?_add, if_neg fun h => h.1 rfl]

/-- **A table has the metric files, each under the name before its extension.** -/
theorem getElem?_ofFiles (hnames : (files.map Prod.fst).Nodup) (font : String) :
    (ofFiles files)[font]? = if font = "" then none else files.lookup (metricFile font) := by
  have hfold : ofFiles files = files.foldl add ∅ := rfl
  rw [hfold]
  split
  next hfont =>
    subst hfont
    rw [getElem?_foldl_add_nothing, Std.HashMap.getElem?_empty]
  next hne =>
    rw [getElem?_foldl_add hnames _ hne, Std.HashMap.getElem?_empty, Option.or_none]

/-! ## The files of a directory -/

variable {disk : Disk} {path : String} {entries : List (String × FileTree)}

/-- The regular files among some entries. -/
def regularFiles (entries : List (String × FileTree)) : List (String × ByteArray) :=
  entries.filterMap fun
    | (name, .file content) => some (name, content)
    | _ => none

theorem map_fst_regularFiles_sublist (entries : List (String × FileTree)) :
    ((regularFiles entries).map Prod.fst).Sublist (entries.map Prod.fst) := by
  induction entries with
  | nil => exact .slnil
  | cons entry entries ih =>
    obtain ⟨name, tree⟩ := entry
    cases tree with
    | file content => exact ih.cons_cons name
    | directory _ | device _ => exact ih.cons name

theorem lookup_regularFiles (hnames : (entries.map Prod.fst).Nodup) (name : String) :
    (regularFiles entries).lookup name = fileIn? entries name := by
  induction entries with
  | nil => rfl
  | cons entry entries ih =>
    obtain ⟨first, tree⟩ := entry
    rw [List.map_cons, List.nodup_cons] at hnames
    have hnone : first ∉ (regularFiles entries).map Prod.fst :=
      fun hmem => hnames.1 ((map_fst_regularFiles_sublist entries).mem hmem)
    rw [fileIn?, List.lookup_cons]
    by_cases hname : name = first
    · subst hname
      rw [beq_self_eq_true]
      cases tree with
      | file content => exact List.lookup_cons_self
      | directory _ | device _ => exact lookup_eq_none hnone
    · rw [beq_false_of_ne hname]
      refine Eq.trans ?_ (ih hnames.2)
      cases tree with
      | file content =>
        refine (List.lookup_cons ..).trans ?_
        rw [beq_false_of_ne hname]
        rfl
      | directory _ | device _ => rfl

theorem ofDirectory_eq (hdir : disk.find path = .ok (.directory entries)) :
    ofDirectory disk path = .ok (ofFiles (regularFiles entries)) := by
  rw [ofDirectory, Disk.filesIn, hdir]
  rfl

end FontTable

/-! ## Opening a metric file -/

namespace Desk

/-- The desk with another source of fonts. -/
def withFonts (d : Desk) (fonts : FontSource) : Desk := { d with fonts }

/-- What the source does not answer is opened as if no font was known. -/
theorem open_of_metric_none {d : Desk} {name : String} {mode : Mode} (h : d.metric name mode = none)
    (resuming : Bool) : d.open name mode resuming =
      (((d.withFonts .empty).open name mode resuming).1,
        ((d.withFonts .empty).open name mode resuming).2.withFonts d.fonts) := by
  have hempty : (d.withFonts .empty).metric name mode = none := by
    rw [metric]
    exact ite_self _
  have hcontents : (d.withFonts .empty).contents = d.contents := rfl
  have hprevious : (d.withFonts .empty).previous name = d.previous name := rfl
  rw [Desk.open, Desk.open, h, hempty, hcontents, hprevious]
  cases d.contents[name]? with
  | some content => rfl
  | none =>
    dsimp only
    split
    · rfl
    · cases d.previous name with
      | some content => rfl
      | none =>
        dsimp only
        split <;> rfl

end Desk

namespace FontTable
open FileName FileTree

variable {disk : Disk} {path : String} {entries : List (String × FileTree)}

/-- What a read of a metric file is answered by: the file of that name with one extension, unless
nothing stands before the extension. -/
def answer? (entries : List (String × FileTree)) (name : String) : Option ByteArray :=
  if fontOf name = "" then none else fileIn? entries (single name)

/-- **The file of the name with one extension answers.** -/
theorem metric_of_directory (hnames : (entries.map Prod.fst).Nodup) {d : Desk}
    (hfonts : d.fonts = (ofFiles (regularFiles entries)).source) {name : String} (hname : isFontMetric name = true) :
    d.metric name .read = answer? entries name := by
  have hread : (Mode.read == Mode.read && isFontMetric name) = true := by rw [hname]; rfl
  have hnodup : ((regularFiles entries).map Prod.fst).Nodup := (map_fst_regularFiles_sublist entries).nodup hnames
  rw [Desk.metric, if_pos hread, hfonts, source, getElem?_ofFiles hnodup, lookup_regularFiles hnames, answer?, single]

/-- A read of a metric file of which the directory has no such file is not answered by the table. -/
def Unanswered (d : Desk) (name : String) : Prop :=
  d.metric name .read = none ∧ ∀ resuming, d.open name .read resuming =
    (((d.withFonts .empty).open name .read resuming).1,
      ((d.withFonts .empty).open name .read resuming).2.withFonts d.fonts)

/-- A read of a metric file gives a handle of a file with this content, which the table has. -/
def Answered (d : Desk) (name : String) (content : ByteArray) : Prop :=
  ∀ resuming, d.open name .read resuming = d.push (.regular (.opened name .read content))

/-- **Font files are served under their own names with one extension.**  Every directory is loaded,
and at a desk with its table a read of a metric file whose name has something before the extension
is answered by the regular file of the directory with that very name, or not by the table if there
is none.  That holds of names with one extension; a name that has one already before its extension
is answered as the name without its last extension is. -/
theorem opens_single (hdir : disk.find path = .ok (.directory entries)) (hnames : (entries.map Prod.fst).Nodup) :
    ∃ table, ofDirectory disk path = .ok table ∧
      ∀ d : Desk, d.fonts = table.source → ∀ stem : String, stem ≠ "" →
        (isFontMetric stem = false →
          (∀ content, fileIn? entries (metricFile stem) = some content → Answered d (metricFile stem) content) ∧
            (fileIn? entries (metricFile stem) = none → Unanswered d (metricFile stem))) ∧
        (isFontMetric stem = true →
          (∀ content, answer? entries stem = some content → Answered d (metricFile stem) content) ∧
            (answer? entries stem = none → Unanswered d (metricFile stem))) := by
  refine ⟨_, ofDirectory_eq hdir, fun d hfonts stem hne => ?_⟩
  have hanswer := metric_of_directory hnames hfonts (isFontMetric_metricFile stem)
  have hanswered {content} (h : d.metric (metricFile stem) .read = some content) :
      Answered d (metricFile stem) content := fun resuming => by rw [Desk.open, h]
  have hunanswered (h : d.metric (metricFile stem) .read = none) : Unanswered d (metricFile stem) :=
    ⟨h, Desk.open_of_metric_none h⟩
  constructor
  · intro hsingle
    have hfont : fontOf (metricFile stem) ≠ "" := by
      rwa [fontOf_metricFile, fontOf_eq_self hsingle]
    rw [answer?, if_neg hfont, (single_eq_iff stem).mpr hsingle] at hanswer
    exact ⟨fun content hfile => hanswered (hanswer.trans hfile), fun hnone => hunanswered (hanswer.trans hnone)⟩
  · intro hseveral
    have hstem : answer? entries (metricFile stem) = answer? entries stem := by
      rw [answer?, answer?, single, single, fontOf_metricFile]
    rw [hstem] at hanswer
    exact ⟨fun content hfile => hanswered (hanswer.trans hfile), fun hnone => hunanswered (hanswer.trans hnone)⟩

/-- A disk with these entries in the directory `fonts`. -/
def fontDisk (entries : List (String × FileTree)) : Disk where
  root := .directory [("fonts", .directory entries)]
  here := []

theorem find_fontDisk (entries : List (String × FileTree)) :
    (fontDisk entries).find "fonts" = .ok (.directory entries) := by
  have hchecked : Disk.checked "fonts" = .ok "fonts" := Disk.checked_eq_ok_iff.mpr ⟨rfl, by decide⟩
  rw [Disk.find, Disk.locate_of_checked hchecked]
  rfl

/-- Two files of a font, and a directory with the name of a metric file. -/
def fontEntries : List (String × FileTree) :=
  [("cmr10.tfm", .file "x".toUTF8), ("cmr10.pk", .file "y".toUTF8), ("nested.tfm", .directory [])]

/-- A metric file is served, a directory of such a name is not, and a second extension changes
nothing. -/
theorem opens_single_fontEntries :
    ∃ table, ofDirectory (fontDisk fontEntries) "fonts" = .ok table ∧
      Answered (.start .empty table.source) "cmr10.tfm" "x".toUTF8 ∧
      Unanswered (.start .empty table.source) "nested.tfm" ∧
      Answered (.start .empty table.source) "cmr10.tfm.tfm" "x".toUTF8 := by
  obtain ⟨table, htable, hserves⟩ := opens_single (find_fontDisk fontEntries) (by decide)
  have hdesk := hserves (.start .empty table.source) rfl
  refine ⟨table, htable, ?_, ?_, ?_⟩
  · exact ((hdesk "cmr10" (by decide)).1 (by decide)).1 _ rfl
  · exact ((hdesk "nested" (by decide)).1 (by decide)).2 rfl
  · exact ((hdesk "cmr10.tfm" (by decide)).2 (by decide)).1 _ rfl

/-- A file with two extensions is not served under its name, and a file with one is served under a
name with two that no file has. -/
theorem doubled_extension_missed :
    (∃ table, ofDirectory (fontDisk [("a.tfm.tfm", .file "x".toUTF8)]) "fonts" = .ok table ∧
      (Desk.start .empty table.source).open "a.tfm.tfm" .read false =
        (.fetch "a.tfm.tfm", .start .empty table.source)) ∧
    ∃ table, ofDirectory (fontDisk [("a.tfm", .file "x".toUTF8)]) "fonts" = .ok table ∧
      (Desk.start .empty table.source).metric "a.tfm.tfm" .read = some "x".toUTF8 := by
  refine ⟨⟨_, ofDirectory_eq (find_fontDisk _), ?_⟩, ⟨_, ofDirectory_eq (find_fontDisk _), ?_⟩⟩
  · have hmetric :
        (Desk.start .empty (ofFiles (regularFiles [("a.tfm.tfm", .file "x".toUTF8)])).source).metric "a.tfm.tfm" .read =
          none :=
      (metric_of_directory (by decide) rfl (by decide)).trans rfl
    have hstored (source : FontSource) : (Desk.start .empty source).contents["a.tfm.tfm"]? = none :=
      Std.HashMap.getElem?_empty
    rw [Desk.open, hmetric, hstored]
    rfl
  · have hmetric :
        (Desk.start .empty (ofFiles (regularFiles [("a.tfm", .file "x".toUTF8)])).source).metric "a.tfm.tfm" .read =
          answer? [("a.tfm", .file "x".toUTF8)] "a.tfm.tfm" :=
      metric_of_directory (by decide) rfl (by decide)
    exact hmetric

end FontTable
end Galley
