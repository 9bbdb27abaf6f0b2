import Galley.File.Console
import Mathlib.Data.List.ReduceOption

/-! # The lines of a console

What is said at a console is a text with marks in it, one at every moment at which the held
line is ended.  Its `Console.lines` are the pieces between line feeds, marks and the two
ends that are not empty.  A console that has heard a text so far has the lines of all its
pieces but the last one, and holds that one (`Console.Hears`).  Writing carries this on by
the text written, whatever its length (`Hears.write`), and flushing by a mark
(`Hears.flush`), so the lines depend on what is said and not on how it was split. -/
namespace Galley

/-! ## Splitting what is split already -/

section Pieces
variable {α β : Type} {p : α → Bool}

/-- What follows a list continues its last piece. -/
theorem exists_last_splitOnP (p : α → Bool) (xs : List α) :
    ∃ pieces last, xs.splitOnP p = pieces ++ [last] ∧ (∀ x ∈ last, p x = false) ∧
      ∀ ys, (xs ++ ys).splitOnP p = pieces ++ (last ++ ys).splitOnP p := by
  induction xs with
  | nil => exact ⟨[], [], List.splitOnP_nil, nofun, fun ys => rfl⟩
  | cons x xs ih =>
    obtain ⟨pieces, last, hsplit, hlast, hfollow⟩ := ih
    by_cases hx : p x = true
    · refine ⟨[] :: pieces, last, ?_, hlast, fun ys => ?_⟩
      · rw [List.splitOnP_cons_eq_if_modifyHead, if_pos hx, hsplit]
        rfl
      · rw [List.cons_append, List.splitOnP_cons_eq_if_modifyHead, if_pos hx, hfollow]
        rfl
    · cases pieces with
      | nil =>
        refine ⟨[], x :: last, ?_, ?_, fun ys => ?_⟩
        · rw [List.splitOnP_cons_eq_if_modifyHead, if_neg hx, hsplit]
          rfl
        · rintro y (_ | ⟨_, hy⟩)
          · simpa using hx
          · exact hlast y hy
        · have hrest := hfollow ys
          rw [List.nil_append] at hrest
          rw [List.cons_append, List.splitOnP_cons_eq_if_modifyHead, if_neg hx, hrest, List.nil_append,
            List.cons_append, List.splitOnP_cons_eq_if_modifyHead, if_neg hx]
      | cons piece pieces =>
        refine ⟨(x :: piece) :: pieces, last, ?_, hlast, fun ys => ?_⟩
        · rw [List.splitOnP_cons_eq_if_modifyHead, if_neg hx, hsplit]
          rfl
        · rw [List.cons_append, List.splitOnP_cons_eq_if_modifyHead, if_neg hx, hfollow]
          rfl

theorem splitOnP_map (p : β → Bool) (f : α → β) (xs : List α) :
    (xs.map f).splitOnP p = (xs.splitOnP (p ∘ f)).map (List.map f) := by
  induction xs with
  | nil => rfl
  | cons x xs ih =>
    rw [List.map_cons, List.splitOnP_cons_eq_if_modifyHead, List.splitOnP_cons_eq_if_modifyHead, ih,
      apply_ite (List.map _)]
    cases xs.splitOnP (p ∘ f) <;> rfl

/-- No piece has anything in it at which the list was split. -/
theorem not_of_mem_splitOnP {xs piece : List α} (h : piece ∈ xs.splitOnP p) : ∀ x ∈ piece, p x = false := by
  induction xs generalizing piece with
  | nil =>
    rw [List.splitOnP_nil, List.mem_singleton] at h
    subst h
    nofun
  | cons x xs ih =>
    rw [List.splitOnP_cons_eq_if_modifyHead] at h
    split at h
    next hx =>
      rcases List.mem_cons.mp h with rfl | h
      · nofun
      · exact ih h
    next hx =>
      obtain ⟨first, rest, hsplit⟩ := List.exists_cons_of_ne_nil (List.splitOnP_ne_nil p xs)
      rw [hsplit, List.modifyHead_cons] at h
      rcases List.mem_cons.mp h with rfl | h
      · rintro y (_ | ⟨_, hy⟩)
        · simpa using hx
        · exact ih (hsplit ▸ List.mem_cons_self ..) y hy
      · exact ih (hsplit ▸ List.mem_cons_of_mem _ h)

/-- The pieces are all of the list but what it was split at. -/
theorem flatten_splitOnP (p : α → Bool) (xs : List α) : (xs.splitOnP p).flatten = xs.filter (!p ·) := by
  induction xs with
  | nil => rfl
  | cons x xs ih =>
    obtain ⟨first, rest, hsplit⟩ := List.exists_cons_of_ne_nil (List.splitOnP_ne_nil p xs)
    rw [hsplit, List.flatten_cons] at ih
    rw [List.splitOnP_cons_eq_if_modifyHead, hsplit]
    by_cases hx : p x = true
    · rw [if_pos hx, List.filter_cons_of_neg (by simp [hx]), ← ih]
      rfl
    · rw [if_neg hx, List.filter_cons_of_pos (by simp [hx]), ← ih]
      rfl

end Pieces

namespace Console

/-! ## The lines of a text with marks -/

/-- A line ends with a line feed, and at a mark. -/
def endsLine : Option Char → Bool
  | some c => c == '\n'
  | none => true

/-- The lines among pieces of a text. -/
def linesAmong (pieces : List (List (Option Char))) : List String :=
  (pieces.filter (! ·.isEmpty)).map fun piece => String.ofList piece.reduceOption

/-- The lines of what is said: the pieces that are not empty between line feeds, marks and the
two ends. -/
def lines (said : List (Option Char)) : List String := linesAmong (said.splitOnP endsLine)

theorem linesAmong_append (pieces pieces' : List (List (Option Char))) :
    linesAmong (pieces ++ pieces') = linesAmong pieces ++ linesAmong pieces' := by
  rw [linesAmong, List.filter_append, List.map_append]
  rfl

theorem reduceOption_map_some (text : List Char) : (text.map some).reduceOption = text := by
  rw [List.reduceOption, List.filterMap_map]
  exact List.filterMap_some

theorem linesAmong_map (pieces : List (List Char)) :
    linesAmong (pieces.map (List.map some)) = (pieces.filter (! ·.isEmpty)).map String.ofList := by
  rw [linesAmong, List.filter_map, List.map_map]
  have hnonempty : ((! ·.isEmpty) ∘ List.map some : List Char → Bool) = (! ·.isEmpty) := by
    funext piece
    exact congrArg not List.isEmpty_map
  rw [hnonempty]
  exact List.map_congr_left fun piece _ => congrArg String.ofList (reduceOption_map_some piece)

theorem toList_emit (transcript : Array String) (pieces : List (List Char)) :
    (emit transcript pieces).toList = transcript.toList ++ linesAmong (pieces.map (List.map some)) := by
  rw [linesAmong_map, emit]
  induction pieces.filter (! ·.isEmpty) generalizing transcript with
  | nil => exact (List.append_nil _).symm
  | cons piece pieces ih =>
    rw [List.foldl_cons, ih, Array.toList_push, List.append_assoc]
    rfl

/-- No line has a line feed in it. -/
theorem not_mem_of_mem_lines {said : List (Option Char)} {line : String} (h : line ∈ lines said) :
    '\n' ∉ line.toList := by
  obtain ⟨piece, hmem, rfl⟩ := List.mem_map.mp h
  intro hfeed
  rw [String.toList_ofList, List.reduceOption_mem_iff] at hfeed
  have hsplit := not_of_mem_splitOnP (List.mem_filter.mp hmem).1 _ hfeed
  cases hsplit

/-- Nothing is lost, doubled or reordered: the lines put together are the text without its line
feeds. -/
theorem flatten_lines (said : List (Option Char)) :
    ((lines said).map String.toList).flatten = said.reduceOption.filter (· != '\n') := by
  have hpieces (pieces : List (List (Option Char))) :
      ((linesAmong pieces).map String.toList).flatten = pieces.flatten.reduceOption := by
    induction pieces with
    | nil => rfl
    | cons piece pieces ih =>
      rw [← List.singleton_append, linesAmong_append, List.map_append, List.flatten_append, ih, List.flatten_append,
        List.reduceOption_append]
      congr 1
      cases piece with
      | nil => rfl
      | cons x piece => simp [linesAmong]
  rw [lines, hpieces, flatten_splitOnP]
  induction said with
  | nil => rfl
  | cons x said ih =>
    cases x with
    | none => exact ih
    | some c =>
      by_cases hc : c = '\n'
      · rw [List.filter_cons_of_neg (by simp [endsLine, hc]), ih, List.reduceOption_cons_of_some,
          List.filter_cons_of_neg (by simp [hc])]
      · rw [List.filter_cons_of_pos (by simp [endsLine, hc]), List.reduceOption_cons_of_some, ih,
          List.reduceOption_cons_of_some, List.filter_cons_of_pos (by simp [hc])]

/-! ## What a console has heard -/

/-- The console has heard this: it has the lines of all pieces but the last one, and holds
that one. -/
def Hears (c : Console) (said : List (Option Char)) : Prop :=
  ∃ pieces, said.splitOnP endsLine = pieces ++ [c.held.map some] ∧ c.transcript.toList = linesAmong pieces

variable {c : Console} {said : List (Option Char)}

theorem Hears.empty : empty.Hears [] := ⟨[], rfl, rfl⟩

/-- What is said next continues the piece that is held. -/
theorem Hears.follow (h : c.Hears said) :
    ∃ pieces, c.transcript.toList = linesAmong pieces ∧ (∀ x ∈ c.held.map some, endsLine x = false) ∧
      ∀ more, (said ++ more).splitOnP endsLine = pieces ++ (c.held.map some ++ more).splitOnP endsLine := by
  obtain ⟨pieces, hsplit, htranscript⟩ := h
  obtain ⟨pieces', last, hsplit', hlast, hfollow⟩ := exists_last_splitOnP endsLine said
  obtain ⟨rfl, hheld⟩ := List.append_inj' (hsplit.symm.trans hsplit') rfl
  obtain rfl := List.singleton_inj.mp hheld
  exact ⟨pieces, htranscript, hlast, hfollow⟩

/-- **A text is heard as it is written**, together with what is held. -/
theorem Hears.write (h : c.Hears said) (text : List Char) : (c.write text).Hears (said ++ text.map some) := by
  obtain ⟨pieces, htranscript, -, hfollow⟩ := h.follow
  obtain ⟨written, last, hwritten⟩ :
      ∃ written last, (c.held ++ text).splitOn '\n' = written ++ [last] :=
    ⟨_, _, (List.dropLast_append_getLast (List.splitOnP_ne_nil _ _)).symm⟩
  have hsplit : (c.held.map some ++ text.map some).splitOnP endsLine = (written ++ [last]).map (List.map some) := by
    rw [← List.map_append, splitOnP_map, ← hwritten]
    rfl
  refine ⟨pieces ++ written.map (List.map some), ?_, ?_⟩
  · rw [hfollow, hsplit, Console.write, hwritten, List.map_append, List.getLast?_concat, List.append_assoc]
    rfl
  · rw [linesAmong_append, ← htranscript, ← toList_emit, Console.write, hwritten, List.dropLast_concat]

/-- A flush makes a line of what is held, if that is not empty. -/
theorem flush_eq (hheld : ∀ x ∈ c.held, (x == '\n') = false) :
    c.flush = { held := [], transcript := emit c.transcript [c.held] } := by
  obtain ⟨held, transcript⟩ := c
  cases held with
  | nil => rfl
  | cons x held =>
    have hsplit : (x :: held ++ ['\n']).splitOn '\n' = [x :: held, []] := by
      rw [List.splitOn, List.splitOnP_append_cons _ _ (by rfl), List.splitOnP_eq_singleton hheld]
      rfl
    show Console.write _ ['\n'] = _
    rw [Console.write, hsplit]
    rfl

/-- **A flush is heard as a mark.** -/
theorem Hears.flush (h : c.Hears said) : c.flush.Hears (said ++ [none]) := by
  obtain ⟨pieces, htranscript, hheld, hfollow⟩ := h.follow
  rw [flush_eq fun x hx => hheld (some x) (List.mem_map_of_mem hx)]
  refine ⟨pieces ++ [c.held.map some], ?_, ?_⟩
  · rw [hfollow, List.splitOnP_append_cons _ _ (by rfl), List.splitOnP_eq_singleton hheld, List.append_assoc]
    rfl
  · rw [toList_emit, htranscript, linesAmong_append]
    rfl

/-- **What a console has heard is in its lines**, once it is flushed. -/
theorem Hears.transcript_flush (h : c.Hears said) : c.flush.transcript = (lines said).toArray := by
  obtain ⟨pieces, hsplit, htranscript⟩ := h.flush
  rw [List.splitOnP_append_cons _ _ (by rfl)] at hsplit
  obtain ⟨rfl, -⟩ := List.append_inj' hsplit rfl
  exact congrArg List.toArray htranscript

end Console
end Galley
