import Galley.Proofs.File.Lines
import Galley.Proofs.Typesetter.Dialogue

/-! # What becomes of console text

What a call that returned says at the console is the text that it writes there, or a mark
where it finishes the run (`Exchange.said`).  A console hears all of the dialogue in its
order (`Session.carried_heard`), so the transcript that typesetting gives has the lines of what was
said and no others, however the run ends and however the text was split into calls
(`Typesetter.transcript_eq_lines`). -/
namespace Galley

variable {σ : Type}

/-- What a call that returned says at the console: the ISO-8859-1 text that it writes to the
console, or a mark where it finishes the run, at the final end and where a read has used up
the script of the terminal. -/
def Exchange.said (x : Exchange) : List (Option Char) :=
  match x.call with
  | .finalEnd => [none]
  | .get handle _ _ => if x.desk.isExhausted handle then [none] else []
  | .inputLine handle _ _ _ _ _ _ =>
    if x.desk.isKeyboard handle && x.result == some (Session.truth false) then [none] else []
  | call =>
    match call.written? x.memory with
    | some (handle, data) => if x.desk.showsAt handle then (Text.latin1List data.data.toList).map some else []
    | none => []

/-- What a dialogue says at the console. -/
def Exchange.allSaid (l : List Exchange) : List (Option Char) := l.flatMap Exchange.said

namespace Exchange

variable {x : Exchange} {d : Desk}

theorem allSaid_concat (l : List Exchange) (x : Exchange) : allSaid (l ++ [x]) = allSaid l ++ x.said := by
  rw [allSaid, List.flatMap_append, List.flatMap_singleton]
  rfl

theorem said_of_written {handle : Int32} {data : ByteArray} (h : x.call.written? x.memory = some (handle, data)) :
    x.said = if x.desk.showsAt handle then (Text.latin1List data.data.toList).map some else [] := by
  unfold said
  cases hcall : x.call with
  | finalEnd =>
    rw [hcall] at h
    cases h
  | get =>
    rw [hcall] at h
    cases h
  | inputLine =>
    rw [hcall] at h
    cases h
  | _ => simp only [← hcall, h]

theorem said_of_opens {mode : Mode} (h : x.call.opens? = some mode) : x.said = [] := by
  unfold said
  cases hcall : x.call <;> rw [hcall] at h <;> first | rfl | cases h

theorem said_of_asks (h : x.call.asks = true) : x.said = [] := by
  unfold said
  cases hcall : x.call <;> rw [hcall] at h <;> first | rfl | cases h

end Exchange

/-- The console has heard what was said, and the end is marked if a mark was said. -/
structure Desk.Heard (l : List Exchange) (d : Desk) : Prop where
  hears : d.console.Hears (Exchange.allSaid l)
  marked : d.finished = (Exchange.allSaid l).contains none

namespace Desk.Heard

variable {l : List Exchange} {x : Exchange} {d d' : Desk}

theorem start (script : ByteArray) (fonts : FontSource) : Heard [] (.start script fonts) := ⟨.empty, rfl⟩

/-- A call that says nothing and leaves the voice. -/
theorem silent (h : Heard l x.desk) (hsaid : x.said = []) (hvoice : d.voice = x.desk.voice) :
    Heard (l ++ [x]) d where
  hears := by
    have hconsole : d.console = x.desk.console := congrArg Prod.fst hvoice
    rw [hconsole, Exchange.allSaid_concat, hsaid, List.append_nil]
    exact h.hears
  marked := by
    rw [Exchange.allSaid_concat, hsaid, List.append_nil]
    exact (congrArg Prod.snd hvoice).trans h.marked

/-- A call that prints a text. -/
theorem printed (h : Heard l x.desk) {text : List Char} (hsaid : x.said = text.map some)
    (hvoice : d.voice = (x.desk.console.write text, x.desk.finished)) : Heard (l ++ [x]) d where
  hears := by
    have hconsole : d.console = x.desk.console.write text := congrArg Prod.fst hvoice
    rw [hconsole, Exchange.allSaid_concat, hsaid]
    exact h.hears.write text
  marked := by
    have hfinished : d.finished = x.desk.finished := congrArg Prod.snd hvoice
    rw [hfinished, h.marked, Exchange.allSaid_concat, hsaid, Bool.eq_iff_iff]
    simp

/-- A call that finishes the run if `ends` is the case, and does nothing to the voice
otherwise. -/
theorem ended (h : Heard l x.desk) (ends : Bool) (hsaid : x.said = if ends then [none] else [])
    (hvoice : d.voice = Desk.finishedIf ends x.desk.voice) : Heard (l ++ [x]) d := by
  cases ends with
  | false => exact h.silent hsaid hvoice
  | true =>
    have hconsole : d.console = x.desk.console.flush := congrArg Prod.fst hvoice
    have hfinished : d.finished = true := congrArg Prod.snd hvoice
    refine ⟨?_, ?_⟩
    · rw [hconsole, Exchange.allSaid_concat, hsaid]
      exact h.hears.flush
    · rw [hfinished, Exchange.allSaid_concat, hsaid]
      simp

/-- **Every call that returned is heard**, whatever it does. -/
theorem leaves (h : Heard l x.desk) (hleaves : x.Leaves d) : Heard (l ++ [x]) d := by
  cases hleaves with
  | opened hmode => exact h.silent (Exchange.said_of_opens hmode) rfl
  | missed hmode => exact h.silent (Exchange.said_of_opens hmode) rfl
  | asked hasks => exact h.silent (Exchange.said_of_asks hasks) rfl
  | @wrote handle data _ hdata hwrite =>
    have hsaid := Exchange.said_of_written hdata
    rcases Desk.write_cases hwrite with ⟨hshows, rfl⟩ | ⟨hshows, f, f', -, -, rfl⟩
    · rw [hshows, if_pos rfl] at hsaid
      exact h.printed hsaid rfl
    · rw [hshows, if_neg Bool.false_ne_true] at hsaid
      exact h.silent hsaid rfl
  | @got handle pointer length y hcall hget =>
    have hends := Desk.endsWith_get x.desk x.memory handle (Memory.address pointer) (Memory.address length)
    rw [hget] at hends
    exact h.ended _ (by rw [Exchange.said, hcall]) hends
  | @lined handle bypass buffer first last reserve capacity more y hcall hline hresult =>
    have hends := Desk.endsWith_inputLine x.desk x.memory handle
      { bypass := bypass != 0, buffer := Memory.address buffer, first := Memory.address first,
        last := Memory.address last, capacity := Memory.address capacity }
    rw [hline] at hends
    refine h.ended (x.desk.isKeyboard handle && !more) ?_ hends
    -- the result tells whether there was a line
    have hmore : (x.result == some (Session.truth false)) = !more := by
      rw [hresult]
      cases more <;> rfl
    rw [Exchange.said, hcall]
    simp only [hmore]
  | finished hcall => exact h.ended true (by rw [Exchange.said, hcall]; rfl) rfl

end Desk.Heard

/-- The console hears the whole dialogue. -/
theorem Session.carried_heard : Session.Carried Desk.Heard where
  stored _ _ h := ⟨h.hears, h.marked⟩
  returned h hleaves := h.leaves hleaves

namespace Typesetter

variable {t : Typesetter σ} {r : Request}

theorem transcript?_outcome (t : Typesetter σ) (s : Session σ) (transcript : Array String) :
    transcript? (t.outcome s transcript) = some transcript := by
  rw [outcome]
  split
  · split <;> rfl
  · rfl

theorem transcript?_failure (cause : Stop) (transcript : Array String) :
    transcript? (.error (failure cause transcript)) = some transcript := by
  cases cause <;> rfl

/-- What the run says is cut into the lines of the transcript. -/
theorem transcript?_typeset (t : Typesetter σ) (r : Request) :
    transcript? (t.typeset r).1 = (t.dialogue? r).map fun l => (Console.lines (Exchange.allSaid l)).toArray := by
  have htypeset := Session.carried_heard.typeset t r (.start ..)
  cases hdialogue : t.dialogue? r with
  | none =>
    simp only [hdialogue] at htypeset
    obtain ⟨error, herror, hnone⟩ := htypeset
    rw [herror, hnone, Option.map_none]
  | some l =>
    simp only [hdialogue] at htypeset
    rw [Option.map_some]
    rcases htypeset with ⟨s, hheard, hresult⟩ | ⟨cause, d, hheard, hresult⟩
    · rw [hresult, transcript?_outcome, hheard.hears.transcript_flush]
    · rw [hresult, transcript?_failure, hheard.hears.transcript_flush]

/-- A result says that the engine reached its final end where a mark was said. -/
theorem finished_of_typeset {p : Typeset} (h : (t.typeset r).1 = .ok p) :
    ∃ l, t.dialogue? r = some l ∧ p.finished = (Exchange.allSaid l).contains none := by
  have htypeset := Session.carried_heard.typeset t r (.start ..)
  cases hdialogue : t.dialogue? r with
  | none =>
    simp only [hdialogue] at htypeset
    obtain ⟨error, herror, -⟩ := htypeset
    rw [herror] at h
    cases h
  | some l =>
    simp only [hdialogue] at htypeset
    refine ⟨l, rfl, ?_⟩
    rcases htypeset with ⟨s, hheard, hresult⟩ | ⟨cause, d, -, hresult⟩
    · rw [hresult, outcome] at h
      split at h
      · split at h
        · cases h
        · cases h
          exact hheard.marked
      · cases h
    · rw [hresult] at h
      cases h

/-- **No console text is lost, doubled or reordered**, however the run ends.  The transcript
has the pieces that are not empty of all that was said, cut at line feeds, at the marks of
the end and at the two ends.  No line has a line feed in it, the lines put together are the
text without its line feeds, and runs that say the same, split into whatever calls, have the
same transcript. -/
theorem transcript_eq_lines (t : Typesetter σ) (r : Request) :
    transcript? (t.typeset r).1 = (t.dialogue? r).map (fun l => (Console.lines (Exchange.allSaid l)).toArray) ∧
      (∀ transcript ∈ transcript? (t.typeset r).1, ∀ line ∈ transcript, '\n' ∉ line.toList) ∧
      (transcript? (t.typeset r).1).map (fun transcript => (transcript.toList.map String.toList).flatten) =
        (t.dialogue? r).map (fun l => (Exchange.allSaid l).reduceOption.filter (· != '\n')) ∧
      ∀ {τ : Type} (t' : Typesetter τ) (r' : Request),
        (t'.dialogue? r').map Exchange.allSaid = (t.dialogue? r).map Exchange.allSaid →
          transcript? (t'.typeset r').1 = transcript? (t.typeset r).1 := by
  refine ⟨transcript?_typeset t r, ?_, ?_, ?_⟩
  · intro transcript htranscript line hline
    rw [transcript?_typeset] at htranscript
    obtain ⟨l, -, rfl⟩ := Option.map_eq_some_iff.mp htranscript
    exact Console.not_mem_of_mem_lines (List.mem_toArray.mp hline)
  · rw [transcript?_typeset, Option.map_map]
    exact congrArg (Option.map · (t.dialogue? r)) (funext fun l => Console.flatten_lines (Exchange.allSaid l))
  · intro τ t' r' hsaid
    have hcut (l : Option (List Exchange)) :
        l.map (fun l => (Console.lines (Exchange.allSaid l)).toArray) =
          (l.map Exchange.allSaid).map fun said => (Console.lines said).toArray := by
      rw [Option.map_map]
      rfl
    rw [transcript?_typeset, transcript?_typeset, hcut, hsaid, ← hcut]

end Typesetter
end Galley
