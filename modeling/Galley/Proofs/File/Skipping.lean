import Galley.Proofs.File.Ending
import Galley.Proofs.File.Failing

/-! # What a read of a line skips

A read of a line that bypasses skips one byte if the flag of a line's end is set.  The flag is
meant for the line feed that the last line has left, and where a read of a line sets it, the
reader of lines stands at that line feed, or at the end of the file (`atFeed_behind_line`).  But
a read of bytes sets it too, at a place of its own, and it stays set when a read of a line has
skipped and then fails.  Those are the only events by which the reader is misled: as long as
there was none since the last line, what is skipped is a line feed, or past the end
(`skips_terminators`). -/
namespace Galley

/-- A line feed or nothing stands at a position. -/
def AtFeed (content : ByteArray) (position : Nat) : Prop :=
  content.size ≤ position ∨ byteAt? content position = some 0x0A

namespace Act

/-- An act with its reply misleads a reader of lines: a read of bytes has told of a line's end, or a
read of a line fails after it may have skipped. -/
inductive Misleads : Act × Reply → Prop where
  | bytesRead {m handle pointer length b} {left : Memory} (hbyte : byteAt? left.bytes pointer.toNat = some b)
      (hends : Desk.endsLine b = true) : Misleads (.get m handle pointer length, ⟨.ok .done, left⟩)
  | lineFailed {m handle buffer first last capacity start cause left} (hfirst : m.readWord first.toNat = .ok start)
      (hlast : last.toNat + 4 ≤ m.size) :
      Misleads (.inputLine m handle true buffer first last capacity, ⟨.error (.error cause), left⟩)

/-- An act with its reply is a read of a line that has delivered one. -/
inductive DeliversLine : Act × Reply → Prop where
  | inputLine {m handle bypass buffer first last capacity left} :
      DeliversLine (.inputLine m handle bypass buffer first last capacity, ⟨.ok (.flag true), left⟩)

/-- A reader of lines was misled, and has not delivered a line since. -/
def MisledSince (events : List (Act × Reply)) : Prop :=
  ∃ before event later, events = before ++ event :: later ∧ Misleads event ∧ ∀ next ∈ later, ¬ DeliversLine next

variable {events : List (Act × Reply)} {event : Act × Reply}

theorem misledSince_concat (h : Misleads event) : MisledSince (events ++ [event]) :=
  ⟨events, event, [], rfl, h, nofun⟩

theorem MisledSince.concat (h : MisledSince events) (hnoLine : ¬ DeliversLine event) :
    MisledSince (events ++ [event]) := by
  obtain ⟨before, first, later, rfl, hmisleads, hlater⟩ := h
  refine ⟨before, first, later ++ [event], by rw [List.append_assoc, List.cons_append], hmisleads, fun next hnext => ?_⟩
  rcases List.mem_append.mp hnext with hnext | hnext
  · exact hlater next hnext
  · exact List.mem_singleton.mp hnext ▸ hnoLine

end Act

namespace Desk
open Act

variable {content : ByteArray} {cursor : Cursor} {f g : OpenFile} {m : Memory} {pointer length position : Nat}
  {r : LineRequest}

/-- A read of the next line that bypasses skips the byte at a position. -/
def SkipsAt (d : Desk) (handle : Int32) (position : Nat) : Prop :=
  ∃ f content cursor, d.file handle = .ok f ∧ f.source? = some (content, cursor) ∧ cursor.linePosition = position ∧
    (cursor.skipped true).linePosition = position + 1

/-! ## Behind a line -/

/-- **Behind a line stands its line feed**, or nothing. -/
theorem atFeed_behind_line (content : ByteArray) (position : Nat) :
    AtFeed content (position + (lineAt content position).size) := by
  let text := textFrom content position
  let line := text.takeWhile fun b => !(b == 0x0A)
  let rest := text.dropWhile fun b => !(b == 0x0A)
  have hsize : (lineAt content position).size = line.length :=
    Array.length_toList.symm.trans (congrArg List.length (toList_lineAt content position))
  have hsplit : line ++ rest = text := List.takeWhile_append_dropWhile
  have hbyte : byteAt? content (position + line.length) = rest.head? := by
    have hdrop : text[line.length]? = content.data.toList[position + line.length]? := List.getElem?_drop
    rw [byteAt?_eq, ← Array.getElem?_toList, ← hdrop, ← hsplit, List.getElem?_append_right (Nat.le_refl _),
      Nat.sub_self, List.head?_eq_getElem?]
  have hhead (b : UInt8) (hrest : rest.head? = some b) : b = 0x0A := by
    have hfound := List.head?_dropWhile_not (fun b : UInt8 => !(b == 0x0A)) text
    rw [hrest] at hfound
    simpa using hfound
  rw [hsize]
  cases hrest : rest.head? with
  | none => exact Or.inl (byteAt?_eq_none_iff.mp (hbyte.trans hrest))
  | some b => exact Or.inr (hbyte.trans (hrest.trans (congrArg some (hhead b hrest))))

/-! ## One read -/

theorem byteAt?_patch {data : ByteArray} {b : UInt8} (hroom : pointer + data.size ≤ m.size)
    (hfirst : byteAt? data 0 = some b) : byteAt? (m.patch pointer data).bytes pointer = some b := by
  have hlt := lt_of_byteAt?_eq_some hfirst
  have hinside : pointer ≤ pointer ∧ pointer < pointer + data.size := ⟨Nat.le_refl _, by omega⟩
  rw [byteAt?_eq] at hfirst ⊢
  rw [Memory.patch, Memory.getElem?_splice hroom, if_pos hinside, Nat.sub_self, hfirst]

/-- A read of bytes leaves the reader of lines where it is, and sets its flag where it tells of a line's
end. -/
theorem behind_of_readEnds {o : Outcome Unit} (hsource : f.source? = some (content, cursor))
    (ho : ReadEnds m pointer length f o) :
    ∃ cursor', o.file.source? = some (content, cursor') ∧ cursor'.linePosition = cursor.linePosition ∧
      (cursor'.Behind → cursor.Behind ∨
        (o.result = .ok () ∧ ∃ b, byteAt? o.memory.bytes pointer = some b ∧ endsLine b = true)) := by
  cases ho with
  | screen => cases hsource
  | missing _ | nothing _ _ _ _ =>
    cases hsource
    exact ⟨_, rfl, rfl, fun hbehind => absurd hbehind.1 nofun⟩
  | outside _ _ | unmarked _ _ _ | beyond _ _ _ _ _ =>
    cases hsource
    exact ⟨_, rfl, rfl, Or.inl⟩
  | bytes _ hroom hlength hfirst _ =>
    cases hsource
    refine ⟨_, rfl, rfl, fun hbehind => Or.inr ⟨rfl, _, byteAt?_patch ?_ ?_, hbehind.2⟩⟩
    · exact Nat.le_trans (Nat.add_le_add_left (size_readAtCursor_le _ length) _) hroom
    · rw [byteAt?_eq] at hfirst ⊢
      rw [Memory.getElem?_slice, if_pos hlength, Nat.add_zero, hfirst]
  | typed hroom _ =>
    cases hsource
    exact ⟨_, rfl, rfl, fun hbehind => Or.inr ⟨rfl, _, byteAt?_patch hroom rfl, hbehind.2⟩⟩
  | typedOutside _ | typedBeyond _ _ =>
    cases hsource
    refine ⟨_, rfl, rfl, fun hbehind => Or.inl ⟨?_, hbehind.2⟩⟩
    exact (Bool.or_eq_false_iff.mp hbehind.1).1

/-- What a read of a line leaves to skip is behind the line that it delivers, or what was left to it, or
behind what it has skipped in vain. -/
theorem behind_of_lineEnds {o : Outcome Bool} (hsource : f.source? = some (content, cursor))
    (ho : LineEnds m r f content (cursor.skipped r.bypass) o) (hgoes : o.result ≠ .error .abort) :
    ∃ cursor', o.file.source? = some (content, cursor') ∧
      (cursor'.Behind → AtFeed content cursor'.linePosition ∨ (cursor' = cursor ∧ o.result ≠ .ok true) ∨
        (r.bypass = true ∧ (∃ cause, o.result = .error (.error cause)) ∧ r.last + 4 ≤ m.size ∧
          ∃ start, m.readWord r.first = .ok start)) := by
  have hskipped : cursor.skipped r.bypass = cursor ∨ r.bypass = true := (skipped_cases ..).imp_right And.left
  cases ho with
  | unreadable _ | unwritable _ _ => exact ⟨cursor, hsource, fun _ => Or.inr (Or.inl ⟨rfl, nofun⟩)⟩
  | ended _ _ _ => exact ⟨_, source?_withCursor hsource _, fun hbehind => absurd hbehind.1 nofun⟩
  | overflow hfirst hlast _ _ | outside hfirst hlast _ _ _ =>
    refine ⟨_, source?_withCursor hsource _, fun _ => Or.inr ?_⟩
    exact hskipped.imp (⟨·, nofun⟩) (⟨·, ⟨_, rfl⟩, hlast, _, hfirst⟩)
  | beyond _ _ _ _ _ => exact absurd rfl hgoes
  | delivered _ _ _ hline _ _ =>
    subst hline
    exact ⟨_, source?_withCursor hsource _, fun _ => Or.inl (atFeed_behind_line ..)⟩

/-! ## A whole run -/

/-- What the acts on a handle leave of the file: where a read of a line would skip, there is a line feed
or nothing, unless the reader was misled. -/
def FeedKept (content : ByteArray) (events : List (Act × Act.Reply)) (g : OpenFile) : Prop :=
  ∃ cursor, g.source? = some (content, cursor) ∧
    (cursor.Behind → AtFeed content cursor.linePosition ∨ MisledSince events)

variable {d d' e : Desk} {handle : Int32} {a : Act} {acts : List Act} {events : List (Act × Act.Reply)}

theorem FeedKept.start (h : f.Unread content) : FeedKept content [] f := by
  cases h with
  | typed | opened name | missing name => exact ⟨_, rfl, fun hbehind => absurd hbehind nofun⟩

theorem eq_of_deliversLine {bypass : Bool} {buffer first last capacity : UInt32} {result : Except FileFailure Bool}
    {left : Memory}
    (h : DeliversLine (.inputLine m handle bypass buffer first last capacity, ⟨result.map .flag, left⟩)) :
    result = .ok true := by
  generalize hreply : result.map Answer.flag = answer at h
  cases h with
  | inputLine =>
    cases result with
    | ok more => exact congrArg Except.ok (Answer.flag.inj (Except.ok.inj hreply))
    | error e => cases hreply

theorem FeedKept.step (h : FeedKept content events g) (hfile : d.file handle = .ok g) (hafter : d.after a = some d')
    (hon : a.isOn handle) (hwritten : ∀ data, a.written? ≠ some (handle, data)) :
    ∃ g', d'.file handle = .ok g' ∧ FeedKept content (events ++ [(a, a.reply d)]) g' := by
  obtain ⟨cursor, hsource, hkept⟩ := h
  have hhandle {handle'} (ha : a.handle? = some handle') : handle' = handle :=
    Option.some.inj (ha.symm.trans (beq_iff_eq.mp hon))
  -- the two reads set the flag, and other acts neither set it nor deliver a line
  cases a with
  | get m handle' pointer length =>
    obtain rfl := hhandle rfl
    obtain ⟨o, hends, hcomes⟩ := comesTo_get hfile m pointer length
    obtain ⟨cursor', hsource', hline, hflag⟩ := behind_of_readEnds hsource hends
    refine ⟨o.file, hcomes.eq_of_after hafter ▸ file_desk hfile o, cursor', hsource', fun hbehind => ?_⟩
    rw [hline, hcomes.reply]
    rcases hflag hbehind with hbehind | ⟨hdone, b, hbyte, hends⟩
    · exact (hkept hbehind).imp_right (·.concat nofun)
    · rw [hdone]
      exact Or.inr (misledSince_concat (.bytesRead hbyte hends))
  | inputLine m handle' bypass buffer first last capacity =>
    obtain rfl := hhandle rfl
    obtain ⟨o, hends, hcomes⟩ := comesTo_inputLine hfile hsource m bypass buffer first last capacity
    have hgoes : o.result ≠ .error .abort := by
      intro habort
      rw [hcomes.after, habort] at hafter
      cases hafter
    obtain ⟨cursor', hsource', hflag⟩ := behind_of_lineEnds hsource hends hgoes
    refine ⟨o.file, hcomes.eq_of_after hafter ▸ file_desk hfile o, cursor', hsource', fun hbehind => ?_⟩
    rw [hcomes.reply]
    rcases hflag hbehind with hfeed | ⟨rfl, hnoLine⟩ | ⟨rfl, ⟨cause, herror⟩, hlast, start, hfirst⟩
    · exact Or.inl hfeed
    · exact (hkept hbehind).imp_right (·.concat fun hdelivers => hnoLine (eq_of_deliversLine hdelivers))
    · rw [herror]
      exact Or.inr (misledSince_concat (.lineFailed hfirst hlast))
  | insert | openFile | openRaw | close | atEnd | atLineEnd | status | put | write | finish =>
    rcases file_cases_of_after hfile hafter with hsame | ⟨g', hleft, heffect⟩
    · exact ⟨g, hsame, cursor, hsource, fun hbehind => (hkept hbehind).imp_right (·.concat nofun)⟩
    · cases heffect with
      | write hdata _ => exact absurd hdata (hwritten _)

/-- **What is skipped is a line feed**, or lies past the end.  This is so of every read of a line that
bypasses, on a handle that was opened for reading and is not written to, unless the reader was
misled since the last line: by a read of bytes that has told of a line's end, or by a read of a
line that failed. -/
theorem skips_terminators (hfile : d.file handle = .ok f) (hunread : f.Unread content) (hrun : d.run acts = some e)
    (hwritten : ∀ a ∈ acts, ∀ data, a.written? ≠ some (handle, data)) (hskips : e.SkipsAt handle position) :
    AtFeed content position ∨ MisledSince (eventsOn handle (d.trace acts)) := by
  have hmem {events : List (Act × Act.Reply)} {event : Act × Act.Reply}
      (hfront : events ++ [event] <+: eventsOn handle (d.trace acts)) :
      event ∈ d.trace acts ∧ event.1.isOn handle = true :=
    List.mem_filter.mp (hfront.subset List.mem_concat_self)
  obtain ⟨g, hg, cursor, hsource, hkept⟩ := file_of_run hfile (FeedKept.start hunread)
    (fun hkept hg hfront hafter => by
      obtain ⟨hevent, hon⟩ := hmem hfront
      have hact := map_fst_trace hrun ▸ List.mem_map_of_mem (f := Prod.fst) hevent
      exact hkept.step hg hafter hon (hwritten _ hact)) hrun
  obtain ⟨g', content', cursor', hg', hsource', rfl, hnext⟩ := hskips
  cases hg.symm.trans hg'
  cases hsource.symm.trans hsource'
  refine hkept ?_
  rcases skipped_cases cursor true with hsame | ⟨-, hbehind⟩
  · rw [hsame] at hnext
    omega
  · exact hbehind

/-- Behind the first line of a file its line feed is skipped. -/
theorem skips_terminators_behind_line :
    let reading := Act.inputLine lineBuffer 0 false 16 0 4 8
    ∃ e, (opened "a\nb".toUTF8).run [reading] = some e ∧ e.SkipsAt 0 1 ∧ AtFeed "a\nb".toUTF8 1 := by
  intro reading
  let content := "a\nb".toUTF8
  have hline : lineAt content 0 = "a".toUTF8 := lineAt_eq (by decide)
  obtain ⟨e, hafter, hfile, -⟩ := shows_line false (file_opened content) rfl (by decide) hline (by decide)
  have hrun : (opened content).run [reading] = some e := run_of_after hafter
  have hskips : e.SkipsAt 0 1 := ⟨_, _, _, hfile, rfl, rfl, rfl⟩
  have hwritten : ∀ a ∈ [reading], ∀ data, a.written? ≠ some (0, data) := List.forall_mem_singleton.mpr nofun
  refine ⟨e, hrun, hskips, ?_⟩
  rcases skips_terminators (file_opened content) (.opened "a.tex" content) hrun hwritten hskips with
    hfeed | ⟨before, event, later, hsplit, hmisleads, -⟩
  · exact hfeed
  · -- the only event is a read that does not bypass
    have hevent : event ∈ eventsOn 0 ((opened content).trace [reading]) := by
      rw [hsplit]
      exact List.mem_append_right _ List.mem_cons_self
    have hmem : event.1 ∈ [reading] := map_fst_trace hrun ▸ List.mem_map_of_mem (List.mem_filter.mp hevent).1
    have hact : event.1 = .inputLine lineBuffer 0 false 16 0 4 8 := List.mem_singleton.mp hmem
    cases hmisleads with
    | bytesRead | lineFailed => cases hact

/-- The first byte of a file, which no read of a line has come to, is skipped behind the line feed that
a read of bytes has delivered. -/
theorem unread_byte_skipped :
    let reading := Act.get lineBuffer 0 16 1
    ∃ e, (Desk.start .empty fun _ => none).run
        [.insert "a.tex" "a\nb".toUTF8, .openFile "a.tex" .read false, reading, reading] = some e ∧
      e.SkipsAt 0 0 ∧ ¬ AtFeed "a\nb".toUTF8 0 ∧
      (Act.inputLine lineBuffer 0 true 16 0 4 8).reply e = ⟨.ok (.flag true), lineShown .empty⟩ := by
  intro reading
  let content := "a\nb".toUTF8
  let f := OpenFile.regular (.opened "a.tex" .read content)
  let d := (opened content).setFile 0 (f.withCursor ⟨1, 0, false, false⟩)
  let e := d.setFile 0 (f.withCursor ⟨2, 0, false, true⟩)
  have hfirst : (opened content).after reading = some d := rfl
  have hsecond : d.after reading = some e := rfl
  have hfile : e.file 0 = .ok (f.withCursor ⟨2, 0, false, true⟩) :=
    file_setFile (file_setFile (file_opened content) _) _
  have hline : lineAt content 1 = .empty := lineAt_eq (by decide)
  obtain ⟨-, -, -, hreply⟩ := shows_line true hfile rfl (by decide) hline (by decide)
  refine ⟨e, ?_, ⟨_, _, _, hfile, rfl, rfl, rfl⟩, ?_, hreply⟩
  · rw [run_opened, run_of_after hfirst, run_of_after hsecond]
    rfl
  · rintro (hend | hfeed)
    · exact absurd hend (by decide)
    · exact absurd hfeed (by decide)

end Desk
end Galley
