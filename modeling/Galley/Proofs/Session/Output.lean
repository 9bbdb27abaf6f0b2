import Galley.Proofs.File.Reopening
import Galley.Proofs.Session.Dialogue

/-! # What a dialogue writes to a file

The `output` of a dialogue under a name is what it writes through the handle of the last
rewrite of that name, call by call.  The files are `Filed` by a dialogue: the last open
writer of the name is the file of that rewrite, and its bytes before the cursor are the ones
written through its handle, as long as no `get` has moved the cursor.  Every call that
returns keeps this (`carried_filed`), so reading the name back gives the output
(`Filed.readBack_eq_output`). -/
namespace Galley

variable {name : String}

/-! ## Opening for writing, and writing -/

namespace Call

variable {c : Call Int32} {m : Memory}

theorem written?_of_opens? {mode : Mode} (h : c.opens? = some mode) : c.written? m = none := by
  cases c with
  | reset | rewrite => rfl
  | _ => cases h

theorem opens?_of_written? {handle : Int32} {data : ByteArray} (h : c.written? m = some (handle, data)) :
    c.opens? = none := by
  cases c with
  | reset | rewrite => cases h
  | _ => rfl

theorem opens?_of_asks (h : c.asks = true) : c.opens? = none := by
  cases c with
  | reset | rewrite => cases h
  | _ => rfl

theorem written?_of_asks (h : c.asks = true) : c.written? m = none := by
  cases c with
  | close | atEnd | atLineEnd | status | minutes | day | month | year => rfl
  | _ => cases h

end Call

namespace Exchange

/-- The file that a call opens for writing. -/
def rewrites? (x : Exchange) : Option String :=
  match x.call.opens?, x.call.handed x.memory with
  | some .write, .ok raw =>
    match FileName.parse raw.data.toList with
    | .file name => some name
    | .terminal => none
  | _, _ => none

/-- Where an open puts its file into the table; its handle is this number. -/
def place (x : Exchange) : Nat := x.desk.table.size

/-- What a call writes through a handle. -/
def bytesAt (handle : Nat) (x : Exchange) : ByteArray :=
  match x.call.written? x.memory with
  | some (handle', data) => if handle'.toInt = handle then data else .empty
  | none => .empty

/-- The call is a `get` through a handle. -/
def getsAt (handle : Nat) (x : Exchange) : Bool :=
  match x.call with
  | .get handle' _ _ => handle'.toInt == handle
  | _ => false

/-- What a dialogue writes through a handle. -/
def allBytesAt (handle : Nat) (l : List Exchange) : ByteArray :=
  l.foldl (fun bytes x => bytes ++ x.bytesAt handle) .empty

/-- The last rewrite of a file. -/
def lastRewrite (name : String) (l : List Exchange) : Option Exchange :=
  l.reverse.find? (·.rewrites? == some name)

/-- What is written through the handle of the last rewrite of a file. -/
def output (name : String) (l : List Exchange) : Option ByteArray :=
  (lastRewrite name l).map fun x => allBytesAt x.place l

/-- The dialogue has no `get` through the handle of the last rewrite of a file. -/
def OnlyWrites (name : String) (l : List Exchange) : Prop :=
  ∀ x, lastRewrite name l = some x → ∀ y ∈ l, y.getsAt x.place = false

variable {l : List Exchange} {x : Exchange}

theorem allBytesAt_concat (handle : Nat) (l : List Exchange) (x : Exchange) :
    allBytesAt handle (l ++ [x]) = allBytesAt handle l ++ x.bytesAt handle :=
  List.foldl_append ..

theorem lastRewrite_of_rewrites (h : x.rewrites? = some name) : lastRewrite name (l ++ [x]) = some x := by
  rw [lastRewrite, List.reverse_concat, List.find?_cons_of_pos (by rw [h, beq_self_eq_true])]

theorem lastRewrite_of_other (h : x.rewrites? ≠ some name) : lastRewrite name (l ++ [x]) = lastRewrite name l := by
  rw [lastRewrite, List.reverse_concat, List.find?_cons_of_neg (by simpa using h)]
  rfl

theorem bytesAt_of_not_written (h : x.call.written? x.memory = none) (handle : Nat) : x.bytesAt handle = .empty := by
  rw [bytesAt, h]

theorem rewrites_of_opens {raw : ByteArray} (hmode : x.call.opens? = some .write)
    (hraw : x.call.handed x.memory = .ok raw) (hparse : FileName.parse raw.data.toList = .file name) :
    x.rewrites? = some name := by
  simp only [rewrites?, hmode, hraw, hparse]

theorem rewrites_of_not_opens (h : x.call.opens? ≠ some .write) : x.rewrites? = none := by
  rw [rewrites?]
  split
  · contradiction
  · rfl

/-- A rewrite puts an open writer of its file into the table, at the start of its content; no
other open puts an open writer of that name there. -/
theorem opened_cases {mode : Mode} {raw : ByteArray} {resuming : Bool} {f : OpenFile}
    (hmode : x.call.opens? = some mode) (hraw : x.call.handed x.memory = .ok raw)
    (hopen : x.desk.openRaw raw mode resuming = x.desk.push f) (name : String) :
    (x.rewrites? = some name ∧ ∃ content, f = .regular (.opened name .write content)) ∨
      (x.rewrites? ≠ some name ∧ f.tag ≠ some (name, .write, true)) := by
  have hpush {g : OpenFile} (hg : x.desk.openRaw raw mode resuming = x.desk.push g) : f = g := by
    have htable : x.desk.table.push f = x.desk.table.push g := congrArg (·.2.table) (hopen.symm.trans hg)
    exact Array.push_inj_right.mp htable
  cases hparse : FileName.parse raw.data.toList with
  | terminal =>
    refine Or.inr ⟨?_, ?_⟩
    · cases mode <;> simp [rewrites?, hmode, hraw, hparse]
    · simp only [Desk.openRaw, hparse] at hpush
      cases mode with
      | read =>
        obtain rfl := hpush rfl
        intro htag
        cases htag
      | write =>
        obtain rfl := hpush rfl
        intro htag
        cases htag
  | file found =>
    simp only [Desk.openRaw, hparse] at hopen hpush
    obtain ⟨g, hfinds, hg⟩ | hfetch := x.desk.finds_of_open found mode resuming
    · rw [hpush hg]
      cases mode with
      | read =>
        refine Or.inr ⟨?_, ?_⟩
        · have hopens : x.call.opens? ≠ some .write := by simp [hmode]
          simp [rewrites_of_not_opens hopens]
        · cases hfinds <;> simp [OpenFile.tag, RegularFile.opened, RegularFile.failed]
      | write =>
        have hrewrites := rewrites_of_opens hmode hraw hparse
        by_cases hname : found = name
        · subst hname
          exact Or.inl ⟨hrewrites, by cases hfinds <;> exact ⟨_, rfl⟩⟩
        · refine Or.inr ⟨?_, ?_⟩
          · rwa [hrewrites, ne_eq, Option.some.injEq]
          · cases hfinds <;> simpa [OpenFile.tag, RegularFile.opened] using hname
    · rw [hfetch] at hopen
      cases congrArg Prod.fst hopen

end Exchange

/-! ## What a call does to a file -/

namespace Desk

variable {d d' : Desk} {handle : Int32} {f : OpenFile}

theorem file_of_getElem? {place : Nat} (hplace : handle.toInt = place) (h : d.table[place]? = some f) :
    d.file handle = .ok f := by
  have hneg : ¬ handle < 0 := by
    rw [Int32.lt_iff_toInt_lt, Int32.toInt_zero]
    omega
  have hindex : handle.toInt.toNat = place := by omega
  rw [file, if_neg hneg, hindex, h]

/-! ## The last open writer -/

theorem left_of_tag {f : RegularFile} (h : (OpenFile.regular f).tag = some (name, .write, true)) :
    f.left name = some f.written := by
  simp only [OpenFile.tag, Option.some.injEq, Prod.mk.injEq] at h
  exact RegularFile.left_of_write ⟨h.1, h.2.2⟩ h.2.1

/-- Only an open writer of the name is read back. -/
theorem left_of_other_tag (h : f.tag ≠ some (name, .write, true)) : f.regular?.bind (·.left name) = none := by
  cases f with
  | regular f =>
    simp only [OpenFile.tag, ne_eq, Option.some.injEq, Prod.mk.injEq] at h
    simp only [OpenFile.regular?, Option.bind_some, RegularFile.left, Bool.and_eq_true, beq_iff_eq, ite_eq_right_iff,
      reduceCtorEq, imp_false]
    rintro ⟨⟨hname, hmode⟩, hopen⟩
    exact h ⟨hname, hmode, hopen⟩
  | keyboard content cursor => rfl
  | screen => rfl

theorem readBack_eq_none (h : ∀ i : Nat, d.tags[i]? ≠ some (some (name, .write, true))) : d.readBack name = none := by
  rw [readBack_eq, latest_eq, Array.toList_map, ← List.map_reverse, List.findSome?_map, List.findSome?_eq_none_iff]
  intro g hg
  obtain ⟨i, hi⟩ := Array.mem_iff_getElem?.mp (Array.mem_toList_iff.mp (List.mem_reverse.mp hg))
  refine left_of_other_tag fun htag => h i ?_
  rw [tags, Array.getElem?_map, hi, Option.map_some, htag]

/-- What is read back under a name is what its last open writer has written. -/
theorem readBack_of_last {i : Nat} {f : RegularFile} (hget : d.table[i]? = some (.regular f))
    (htag : (OpenFile.regular f).tag = some (name, .write, true))
    (hlast : ∀ j : Nat, d.tags[j]? = some (some (name, .write, true)) → j ≤ i) : d.readBack name = some f.written := by
  have hsplit : d.table.toList = d.table.toList.take i ++ .regular f :: d.table.toList.drop (i + 1) := by
    obtain ⟨hlt, hf⟩ := Array.getElem?_eq_some_iff.mp hget
    rw [← hf, ← Array.getElem_toList hlt, ← List.drop_eq_getElem_cons, List.take_append_drop]
  rw [readBack_eq, latest_eq, Array.toList_map, ← List.map_reverse, List.findSome?_map, hsplit, List.reverse_append,
    List.reverse_cons, List.append_assoc, List.findSome?_append]
  have hbehind : (d.table.toList.drop (i + 1)).reverse.findSome? (id ∘ fun f => f.regular?.bind (·.left name)) =
      none := by
    rw [List.findSome?_eq_none_iff]
    intro g hg
    obtain ⟨j, hj⟩ := List.mem_iff_getElem?.mp (List.mem_reverse.mp hg)
    rw [List.getElem?_drop, Array.getElem?_toList] at hj
    refine left_of_other_tag fun htag => ?_
    have hle := hlast (i + 1 + j) (by rw [tags, Array.getElem?_map, hj, Option.map_some, htag])
    omega
  rw [hbehind, Option.none_or, List.singleton_append, List.findSome?_cons_of_isSome]
  · exact left_of_tag htag
  · rw [show (id ∘ fun f : OpenFile => f.regular?.bind (·.left name)) (.regular f) = f.left name from rfl,
      left_of_tag htag]
    rfl

end Desk

namespace Exchange

/-- What a call that opens no file does to the files: tags stay, and a regular file gets what
is written through its handle, unless a `get` moves its cursor. -/
structure Works (x : Exchange) (d : Desk) : Prop where
  tags : d.tags = x.desk.tags
  nowhere : ∀ place, x.desk.table.size ≤ place → x.bytesAt place = .empty
  files : ∀ {place f}, x.desk.table[place]? = some (.regular f) → ∃ f', d.table[place]? = some (.regular f') ∧
    (x.getsAt place = false → f.cursor.position ≤ f.buffer.size →
      f'.cursor.position ≤ f'.buffer.size ∧ f'.written = f.written ++ x.bytesAt place)

variable {x : Exchange} {d : Desk}

/-- A call that writes nothing, and leaves the files or the bytes before their cursors. -/
theorem works_of_files (hwritten : x.call.written? x.memory = none) (htags : d.tags = x.desk.tags)
    (hfiles : ∀ {place f}, x.desk.table[place]? = some (.regular f) → ∃ cursor,
      d.table[place]? = some (.regular { f with cursor }) ∧
        (x.getsAt place = false → cursor.position = f.cursor.position)) : Works x d where
  tags := htags
  nowhere place _ := bytesAt_of_not_written hwritten place
  files {place f} hf := by
    obtain ⟨cursor, hget, hcursor⟩ := hfiles hf
    refine ⟨_, hget, fun hgets hposition => ?_⟩
    have hposition' : cursor.position = f.cursor.position := hcursor hgets
    refine ⟨by simpa only [hposition'] using hposition, ?_⟩
    rw [bytesAt_of_not_written hwritten, ByteArray.append_empty, RegularFile.written, RegularFile.written, hposition']

theorem works_of_table (hwritten : x.call.written? x.memory = none) (htable : d.table = x.desk.table) : Works x d := by
  refine works_of_files hwritten (by rw [Desk.tags, htable, Desk.tags]) fun {place f} hf => ?_
  exact ⟨f.cursor, by rw [htable, hf], fun _ => rfl⟩

/-- A call that turns the cursor of one file, and moves it only if it is a `get`. -/
theorem works_of_turned {handle : Int32} {length : Nat} (hwritten : x.call.written? x.memory = none)
    (hmoves : ∀ place : Nat, handle.toInt = place → x.getsAt place = false → length = 0)
    (hturned : Desk.Retouched (OpenFile.Turned length) handle x.desk d) : Works x d := by
  refine works_of_files hwritten (hturned.map_table fun _ hf => hf.tag) fun {place f} hf => ?_
  rcases hturned.table with htable | ⟨g, g', hg, ⟨cursor, rfl, hcursor⟩, htable⟩
  · exact ⟨f.cursor, by rw [htable, hf], fun _ => rfl⟩
  · have hhandle := Desk.toInt_of_file hg
    by_cases hplace : handle.toInt.toNat = place
    · subst hplace
      obtain rfl : g = .regular f := Option.some.inj ((Desk.getElem?_of_file hg).symm.trans hf)
      refine ⟨cursor, ?_, fun hgets => ?_⟩
      · rw [htable, Array.getElem?_setIfInBounds_self_of_lt (Array.getElem?_eq_some_iff.mp hf).1]
        rfl
      · rw [hmoves _ hhandle hgets, Nat.add_zero, or_self] at hcursor
        exact hcursor
    · exact ⟨f.cursor, by rw [htable, Array.getElem?_setIfInBounds_ne hplace, hf], fun _ => rfl⟩

/-- A call that writes. -/
theorem works_of_write {handle : Int32} {data : ByteArray} (hdata : x.call.written? x.memory = some (handle, data))
    (hwrite : x.desk.write handle data = .ok d) : Works x d where
  tags := (Desk.keeps_write hwrite).tags
  nowhere place hsize := by
    rw [bytesAt, hdata]
    refine if_neg fun hplace => ?_
    have hnone : x.desk.table[handle.toInt.toNat]? = none := Array.getElem?_eq_none (by omega)
    rcases Desk.write_cases hwrite with ⟨hshows, -⟩ | ⟨-, f, -, hf, -⟩
    · rcases Desk.showsAt_eq_true_iff.mp hshows with hneg | hscreen
      · rw [Int32.lt_iff_toInt_lt, Int32.toInt_zero] at hneg
        omega
      · cases hnone.symm.trans (Desk.getElem?_of_file hscreen)
    · cases hnone.symm.trans (Desk.getElem?_of_file hf)
  files {place f} hf := by
    by_cases hplace : handle.toInt = place
    · have hfile := Desk.file_of_getElem? hplace hf
      rcases Desk.write_cases hwrite with ⟨hshows, -⟩ | ⟨-, g, g', hg, hgg', rfl⟩
      · rcases Desk.showsAt_eq_true_iff.mp hshows with hneg | hscreen
        · rw [Int32.lt_iff_toInt_lt, Int32.toInt_zero] at hneg
          omega
        · cases hfile.symm.trans hscreen
      · cases hfile.symm.trans hg
        refine ⟨g', ?_, fun _ hposition => ⟨RegularFile.position_le_of_write hgg', ?_⟩⟩
        · have hindex : handle.toInt.toNat = place := by omega
          rw [Desk.setFile, hindex, Array.getElem?_setIfInBounds_self_of_lt (Array.getElem?_eq_some_iff.mp hf).1]
        · rw [RegularFile.written_of_write hgg' hposition, bytesAt, hdata]
          exact congrArg (f.written ++ ·) (if_pos hplace).symm
    · have hbytes : x.bytesAt place = .empty := by
        rw [bytesAt, hdata]
        exact if_neg hplace
      refine ⟨f, ?_, fun _ hposition => ⟨hposition, by rw [hbytes, ByteArray.append_empty]⟩⟩
      rcases Desk.write_cases hwrite with ⟨-, rfl⟩ | ⟨-, g, g', hg, -, rfl⟩
      · exact hf
      · have hhandle := Desk.toInt_of_file hg
        rw [Desk.setFile, Array.getElem?_setIfInBounds_ne (by omega), hf]

end Exchange

/-! ## What a dialogue has done to the files -/

open Exchange

/-- The last open writer of a name is the file that the last rewrite of it has put into the
table, and holds what was written through its handle, if no `get` has moved its cursor. -/
structure Desk.Filed (name : String) (l : List Exchange) (d : Desk) : Prop where
  /-- A rewrite returns its place. -/
  returned : ∀ x ∈ l, x.rewrites? = some name → x.result = some (Int32.ofNat x.place)
  /-- Nothing is written through a handle that names no file yet. -/
  nowhere : ∀ place, d.table.size ≤ place → allBytesAt place l = .empty
  last : ∀ i : Nat, d.tags[i]? = some (some (name, .write, true)) → ∃ x, lastRewrite name l = some x ∧ i ≤ x.place
  filed : ∀ x, lastRewrite name l = some x → ∃ f : RegularFile, d.table[x.place]? = some (.regular f) ∧
    (OpenFile.regular f).tag = some (name, .write, true) ∧
    ((∀ y ∈ l, y.getsAt x.place = false) → f.cursor.position ≤ f.buffer.size ∧ f.written = allBytesAt x.place l)

namespace Desk.Filed

variable {l : List Exchange} {x : Exchange} {d : Desk}

theorem start (name : String) (script : ByteArray) (fonts : FontSource) : Filed name [] (.start script fonts) where
  returned := nofun
  nowhere _ _ := rfl
  last i hi := by
    rw [tags, Desk.start, Array.map_empty] at hi
    cases hi
  filed x hx := by cases hx

theorem stored (h : Filed name l d) (file : String) (content : ByteArray) : Filed name l (d.insert file content) :=
  ⟨h.returned, h.nowhere, h.last, h.filed⟩

/-- What a rewrite returns, after one more call. -/
theorem returned_concat (h : Filed name l x.desk)
    (hx : x.rewrites? = some name → x.result = some (Int32.ofNat x.place)) :
    ∀ y ∈ l ++ [x], y.rewrites? = some name → y.result = some (Int32.ofNat y.place) := by
  intro y hy
  rcases List.mem_append.mp hy with hy | hy
  · exact h.returned y hy
  · rw [List.mem_singleton.mp hy]
    exact hx

/-- An open puts its file behind all others. -/
theorem opened {mode : Mode} {raw : ByteArray} {resuming : Bool} {f : OpenFile} (h : Filed name l x.desk)
    (hmode : x.call.opens? = some mode) (hraw : x.call.handed x.memory = .ok raw)
    (hopen : x.desk.openRaw raw mode resuming = x.desk.push f)
    (hresult : x.result = some (Int32.ofNat x.desk.table.size)) : Filed name (l ++ [x]) (x.desk.push f).2 := by
  have hbytes (place : Nat) : allBytesAt place (l ++ [x]) = allBytesAt place l := by
    rw [allBytesAt_concat, bytesAt_of_not_written (Call.written?_of_opens? hmode), ByteArray.append_empty]
  have hnowhere (place : Nat) (hplace : (x.desk.push f).2.table.size ≤ place) :
      allBytesAt place (l ++ [x]) = .empty := by
    rw [hbytes]
    rw [push, Array.size_push] at hplace
    exact h.nowhere place (by omega)
  have htags : (x.desk.push f).2.tags = x.desk.tags.push f.tag := tags_push ..
  have hsize : x.desk.tags.size = x.place := Array.size_map ..
  obtain ⟨hrewrites, content, rfl⟩ | ⟨hother, htag⟩ := opened_cases hmode hraw hopen name
  · refine ⟨h.returned_concat fun _ => hresult, hnowhere, fun i hi => ?_, fun y hy => ?_⟩
    · rw [htags] at hi
      have hlt := (Array.getElem?_eq_some_iff.mp hi).1
      rw [Array.size_push, hsize] at hlt
      exact ⟨x, lastRewrite_of_rewrites hrewrites, by omega⟩
    · rw [lastRewrite_of_rewrites hrewrites, Option.some.injEq] at hy
      subst hy
      refine ⟨_, Array.getElem?_push_size, rfl, fun _ => ⟨Nat.zero_le _, ?_⟩⟩
      rw [hbytes, h.nowhere x.place (Nat.le_refl _), RegularFile.written]
      exact ByteArray.extract_same
  · refine ⟨h.returned_concat fun _ => hresult, hnowhere, fun i hi => ?_, fun y hy => ?_⟩
    · rw [htags, Array.getElem?_push] at hi
      rw [lastRewrite_of_other hother]
      split at hi
      · exact absurd (Option.some.inj hi) htag
      · exact h.last i hi
    · rw [lastRewrite_of_other hother] at hy
      obtain ⟨g, hget, hg, hwritten⟩ := h.filed y hy
      refine ⟨g, ?_, hg, fun hgets => ?_⟩
      · have hlt := (Array.getElem?_eq_some_iff.mp hget).1
        rw [push, Array.getElem?_push, if_neg (by omega), hget]
      · rw [hbytes]
        exact hwritten fun z hz => hgets z (List.mem_append_left _ hz)

/-- A call that opens no file adds to the bytes what it writes. -/
theorem worked (h : Filed name l x.desk) (hother : x.rewrites? ≠ some name) (hworks : x.Works d) :
    Filed name (l ++ [x]) d := by
  have hsize : d.table.size = x.desk.table.size := by
    have htags := congrArg Array.size hworks.tags
    rwa [tags, tags, Array.size_map, Array.size_map] at htags
  refine ⟨h.returned_concat fun hx => absurd hx hother, fun place hplace => ?_, fun i hi => ?_, fun y hy => ?_⟩
  · rw [hsize] at hplace
    rw [allBytesAt_concat, h.nowhere place hplace, hworks.nowhere place hplace]
    rfl
  · rw [hworks.tags] at hi
    rw [lastRewrite_of_other hother]
    exact h.last i hi
  · rw [lastRewrite_of_other hother] at hy
    obtain ⟨f, hget, htag, hwritten⟩ := h.filed y hy
    obtain ⟨f', hget', hf'⟩ := hworks.files hget
    refine ⟨f', hget', ?_, fun hgets => ?_⟩
    · have htags := congrArg (·[y.place]?) hworks.tags
      simp only [tags, Array.getElem?_map, hget, hget', Option.map_some, Option.some.injEq] at htags
      exact htags.trans htag
    · obtain ⟨hposition, hbytes⟩ := hwritten fun z hz => hgets z (List.mem_append_left _ hz)
      obtain ⟨hposition', hbytes'⟩ := hf' (hgets x (List.mem_append_right _ (List.mem_singleton_self x))) hposition
      exact ⟨hposition', by rw [hbytes', hbytes, allBytesAt_concat]⟩

/-- **Every call that returned keeps the files as the dialogue says.** -/
theorem leaves (h : Filed name l x.desk) (hleaves : x.Leaves d) : Filed name (l ++ [x]) d := by
  -- a call that does not open for writing rewrites no file
  have hother (hopens : x.call.opens? ≠ some .write) : x.rewrites? ≠ some name := by
    rw [rewrites_of_not_opens hopens]
    nofun
  cases hleaves with
  | opened hmode hraw hopen hresult => exact h.opened hmode hraw hopen hresult
  | missed hmode =>
    exact h.worked (hother (by rw [hmode]; nofun)) (works_of_table (Call.written?_of_opens? hmode) rfl)
  | asked hasks =>
    have hopens := Call.opens?_of_asks hasks
    exact h.worked (hother (by rw [hopens]; nofun)) (works_of_table (Call.written?_of_asks hasks) rfl)
  | @wrote handle data _ hdata hwrite =>
    have hopens := Call.opens?_of_written? hdata
    exact h.worked (hother (by rw [hopens]; nofun)) (works_of_write hdata hwrite)
  | @got handle pointer length y hcall hget =>
    have hturned := leaves_get x.desk x.memory handle (Memory.address pointer) (Memory.address length)
      fun _ _ => trivial
    rw [hget] at hturned
    refine h.worked (hother (by rw [hcall]; nofun)) (works_of_turned (by rw [hcall]; rfl) ?_ hturned)
    intro place hplace hgets
    simp [getsAt, hcall, hplace] at hgets
  | @lined handle bypass buffer first last reserve capacity more y hcall hline hresult =>
    have hturned := leaves_inputLine x.desk x.memory handle
      { bypass := bypass != 0, buffer := Memory.address buffer, first := Memory.address first,
        last := Memory.address last, capacity := Memory.address capacity } fun _ _ => trivial
    rw [hline] at hturned
    exact h.worked (hother (by rw [hcall]; nofun)) (works_of_turned (by rw [hcall]; rfl) (fun _ _ _ => rfl) hturned)
  | finished hcall =>
    exact h.worked (hother (by rw [hcall]; nofun)) (works_of_table (by rw [hcall]; rfl) rfl)

/-- **Reading a name back gives the output** under it, if the dialogue only writes through that
handle. -/
theorem readBack_eq_output (h : Filed name l d) (hwrites : OnlyWrites name l) : d.readBack name = output name l := by
  rw [output]
  cases hrewrite : lastRewrite name l with
  | none =>
    refine readBack_eq_none fun i hi => ?_
    obtain ⟨x, hx, -⟩ := h.last i hi
    rw [hrewrite] at hx
    cases hx
  | some x =>
    obtain ⟨f, hget, htag, hwritten⟩ := h.filed x hrewrite
    rw [Option.map_some, ← (hwritten (hwrites x hrewrite)).2]
    refine readBack_of_last hget htag fun j hj => ?_
    obtain ⟨y, hy, hle⟩ := h.last j hj
    rw [hrewrite, Option.some.injEq] at hy
    subst hy
    exact hle

end Desk.Filed

/-- The files are as the dialogue says, from call to call. -/
theorem Session.carried_filed (name : String) : Session.Carried (Desk.Filed name) where
  stored file content h := h.stored file content
  returned h hleaves := h.leaves hleaves

end Galley
