import Galley.Proofs.Memory.Fitting
import Galley.Proofs.Session.Setup
import Galley.Proofs.Typesetter.Dependence

/-! # Suspension is transparent

Typesetting a request with the files already on the desk that it would otherwise have to
fetch (`typesetWith`) completes the same calls with the same results, comes to the same page,
transcript and end, and does not suspend the guest for any of these files
(`suspension_transparent`).  This holds for every engine with a guest that can be suspended
and that hands nothing of the control words to the host. -/
namespace Galley

variable {σ : Type}

/-- The file that was fetched, if one was. -/
def Happening.file? : Happening → Option (String × ByteArray)
  | .fetched name content => some (name, content)
  | _ => none

/-- The files fetched in a history, in order. -/
def Session.fetched (l : List Happening) : List (String × ByteArray) := l.filterMap Happening.file?

theorem Session.mem_fetched {l : List Happening} {name : String} {content : ByteArray} :
    (name, content) ∈ fetched l ↔ .fetched name content ∈ l := by
  rw [fetched, List.mem_filterMap]
  constructor
  · rintro ⟨happening, hmem, hfile⟩
    cases happening <;> cases hfile
    exact hmem
  · exact fun hmem => ⟨_, hmem, rfl⟩

/-! ## Files put on a desk -/

namespace Desk

theorem insertAll_nil (d : Desk) : d.insertAll [] = d := rfl

theorem insertAll_cons (d : Desk) (file : String × ByteArray) (files : List (String × ByteArray)) :
    d.insertAll (file :: files) = (d.insert file.1 file.2).insertAll files := rfl

theorem insertAll_eq (d : Desk) (files : List (String × ByteArray)) :
    d.insertAll files = d.withContents (d.insertAll files).contents := by
  induction files generalizing d with
  | nil => rfl
  | cons file files ih =>
    rw [insertAll_cons]
    exact ih (d.insert file.1 file.2)

theorem getElem?_insertAll_of_not_mem {d : Desk} {files : List (String × ByteArray)} {name : String}
    (h : ∀ content, (name, content) ∉ files) : (d.insertAll files).contents[name]? = d.contents[name]? := by
  induction files generalizing d with
  | nil => rfl
  | cons file files ih =>
    rw [insertAll_cons, ih fun content hmem => h content (List.mem_cons_of_mem _ hmem), insert,
      Std.HashMap.getElem?_insert, if_neg]
    intro hname
    obtain rfl : file.1 = name := by simpa using hname
    exact h file.2 (List.mem_cons_self ..)

/-- Files of which those with one name have one content. -/
theorem getElem?_insertAll_of_mem {d : Desk} {files : List (String × ByteArray)} {name : String} {content : ByteArray}
    (h : ∀ content', (name, content') ∈ files → content' = content) (hmem : ∃ content', (name, content') ∈ files) :
    (d.insertAll files).contents[name]? = some content := by
  induction files generalizing d with
  | nil =>
    obtain ⟨content', hmem⟩ := hmem
    cases hmem
  | cons file files ih =>
    rw [insertAll_cons]
    by_cases hrest : ∃ content', (name, content') ∈ files
    · exact ih (fun content' hmem' => h content' (List.mem_cons_of_mem _ hmem')) hrest
    · rw [getElem?_insertAll_of_not_mem fun content' hmem' => hrest ⟨content', hmem'⟩]
      obtain ⟨content', hmem⟩ := hmem
      rcases List.mem_cons.mp hmem with rfl | hmem
      · rw [insert, h content' (List.mem_cons_self ..)]
        exact Std.HashMap.getElem?_insert_self
      · exact absurd ⟨content', hmem⟩ hrest

end Desk
/-! ## The clock -/

namespace Session

variable {h : Host σ} (clock : Clock)

theorem called_withClock {answer answer' : Call Int32 → Serving σ (Option Int32)} {step : σ → Memory → Action σ}
    (hanswer : ∀ {s m call}, (step s m).move = .call call → answer call = answer' call) :
    called (h.withClock clock) answer step = called h answer' step := by
  funext s
  have hagree := @hanswer s.guest s.memory
  simp only [called]
  cases hmove : (step s.guest s.memory).move with
  | call call =>
    exact congrArg (reported h.control call (s.stepped step)) (congrFun (hagree hmove) (s.stepped step))
  | _ => rfl

theorem history_withClock
    (hmain : ∀ {s m call}, (h.guest.step s m).move = .call call → call.usesClock = false) (budget : Nat) :
    history (h.withClock clock) budget = history h budget := by
  have hcalled : called (h.withClock clock) (serve (h.withClock clock)) h.guest.step =
      called h (serve h) h.guest.step :=
    called_withClock clock fun hcall => serve_withClock h clock (hmain hcall)
  induction budget with
  | zero => rfl
  | succ budget ih =>
    funext turn s
    rw [history, history, takeTurn_withClock clock hmain, ih]
    cases turn with
    | host => rw [happenings, happenings, takeTurn_withClock clock hmain]
    | guest => exact congrArg (· s ++ _) hcalled

theorem startHistory_withClock {steps : List (σ → Memory → Action σ)}
    (hsteps : ∀ {step}, step ∈ steps → ∀ {s m call}, (step s m).move = .call call → call.usesClock = false) :
    startHistory (h.withClock clock) steps = startHistory h steps := by
  induction steps with
  | nil => rfl
  | cons step steps ih =>
    have hanswer {s m call} (hcall : (step s m).move = .call call) :
        serveDetached (h.withClock clock) call = serveDetached h call := by
      rw [serveDetached, serveDetached, serve_withClock h clock (hsteps (List.mem_cons_self ..) hcall)]
    funext s
    rw [startHistory, startHistory, called_withClock clock hanswer, perform_withClock h clock hanswer,
      ih fun hmem => hsteps (List.mem_cons_of_mem _ hmem)]

theorem runHistory_withClock
    (hmain : ∀ {s m call}, (h.guest.step s m).move = .call call → call.usesClock = false) (budget : Nat)
    (s : Session σ) : runHistory (h.withClock clock) budget s = runHistory h budget s := by
  simp only [runHistory, history_withClock clock hmain]
  rfl

theorem setupHistory_withClock {e : Engine σ} (he : e.Clockless) (pages : Nat) (image : ByteArray) (desk : Desk)
    (asked : Array String) :
    setupHistory (h.withClock clock) e pages image desk asked = setupHistory h e pages image desk asked := by
  simp only [setupHistory, startHistory_withClock clock he.start]
  rfl

end Session

/-! ## Typesetting with files on the desk -/

/-- What typesetting gives, but for how often the guest was suspended. -/
def Typeset.product (p : Typeset) : ByteArray × Array String × Bool := (p.page, p.transcript, p.finished)

namespace Typesetter
open Session

/-- Typesetting from the desk that has been set out. -/
def typesetAt (t : Typesetter σ) (r : Request) (desk : Desk) (asked : Array String) :
    Except TypesetError Typeset × Traffic :=
  match Session.start t.host t.engine t.config.memoryPages t.image desk asked with
  | (.error e, s) =>
    let error := match e with
      | .instantiation => TypesetError.instantiation
      | .missing x => .missingExport x
    (.error error, { asked := s.asked, shown := shown r s.desk.console.transcript })
  | (.ok (), s) =>
    match Session.run t.host t.budget s with
    | .error cause s =>
      let transcript := s.desk.console.flush.transcript
      (.error (failure cause transcript), { asked := s.asked, shown := shown r transcript })
    | .ok () s =>
      let transcript := s.desk.console.flush.transcript
      (t.outcome s transcript, { asked := s.asked, shown := shown r transcript })

/-- Typesetting with files that are on the desk before the guest starts, besides those that the
request brings along. -/
def typesetWith (t : Typesetter σ) (early : List (String × ByteArray)) (r : Request) :
    Except TypesetError Typeset × Traffic :=
  match t.setOut r #[] with
  | .error e asked => (.error (.resource e), { asked, shown := #[] })
  | .ok desk asked => t.typesetAt r (desk.insertAll early) asked

theorem typesetWith_nil (t : Typesetter σ) (r : Request) : t.typesetWith [] r = t.typeset r := rfl

/-- What happens between the guest and its host when typesetting goes on from a desk. -/
def historyAt (t : Typesetter σ) (desk : Desk) (asked : Array String) : List Happening :=
  setupHistory t.host t.engine t.config.memoryPages t.image desk asked ++
    match Session.start t.host t.engine t.config.memoryPages t.image desk asked with
    | (.ok (), s) => runHistory t.host t.budget s
    | (.error _, _) => []

/-- The history of `typesetWith`. -/
def historyWith (t : Typesetter σ) (early : List (String × ByteArray)) (r : Request) : List Happening :=
  match t.setOut r #[] with
  | .error _ _ => []
  | .ok desk asked => t.historyAt (desk.insertAll early) asked

variable {t : Typesetter σ} {r : Request} {desk : Desk} {asked : Array String}

theorem typesetWith_of_setOut (hsetOut : t.setOut r #[] = .ok desk asked) (early : List (String × ByteArray)) :
    t.typesetWith early r = t.typesetAt r (desk.insertAll early) asked := by
  rw [typesetWith, hsetOut]

theorem historyWith_of_setOut (hsetOut : t.setOut r #[] = .ok desk asked) (early : List (String × ByteArray)) :
    t.historyWith early r = t.historyAt (desk.insertAll early) asked := by
  rw [historyWith, hsetOut]

theorem typesetAt_of_run {s s' : Session σ}
    (hstart : Session.start t.host t.engine t.config.memoryPages t.image desk asked = (.ok (), s))
    (hrun : Session.run t.host t.budget s = .ok () s') :
    (t.typesetAt r desk asked).1 = t.outcome s' s'.desk.console.flush.transcript := by
  simp only [typesetAt, hstart, hrun]

theorem historyAt_of_start {s : Session σ}
    (hstart : Session.start t.host t.engine t.config.memoryPages t.image desk asked = (.ok (), s)) :
    t.historyAt desk asked =
      setupHistory t.host t.engine t.config.memoryPages t.image desk asked ++ runHistory t.host t.budget s := by
  rw [historyAt, hstart]

/-- A run that is out of fuel shows it in the result. -/
theorem run_ne_outOfFuel {s : Session σ}
    (hstart : Session.start t.host t.engine t.config.memoryPages t.image desk asked = (.ok (), s))
    (hended : ∀ transcript, (t.typesetAt r desk asked).1 ≠ .error (.outOfFuel transcript)) (s' : Session σ) :
    Session.run t.host t.budget s ≠ .error .outOfFuel s' := by
  intro hrun
  refine hended s'.desk.console.flush.transcript ?_
  simp only [typesetAt, hstart, hrun, failure]

theorem historyAt_withClock (ht : t.engine.Clockless) (clock : Clock) (desk : Desk) (asked : Array String) :
    (t.withClock clock).historyAt desk asked = t.historyAt desk asked := by
  have hhost : (t.withClock clock).host = t.host.withClock clock := rfl
  have hengine : (t.withClock clock).engine = t.engine := rfl
  have hrun := runHistory_withClock clock (h := t.host) ht.main
  simp only [historyAt, hhost, hengine, setupHistory_withClock clock ht, ht.start_withClock t.host clock, hrun]
  rfl

theorem typesetAt_withClock (ht : t.engine.Clockless) (clock : Clock) (r : Request) (desk : Desk)
    (asked : Array String) : (t.withClock clock).typesetAt r desk asked = t.typesetAt r desk asked := by
  have hhost : (t.withClock clock).host = t.host.withClock clock := rfl
  have hengine : (t.withClock clock).engine = t.engine := rfl
  have hrun := Session.run_withClock clock (h := t.host) ht.main
  simp only [typesetAt, hhost, hengine, ht.start_withClock t.host clock, hrun]
  rfl

/-! ## Transparency -/

theorem room_of_check {c : Config} (hc : c.check = .ok ()) :
    (ControlBlock.ofConfig c).start + 8 ≤ c.memoryPages * Config.pageSize :=
  (ControlBlock.room_of_check hc).2.1.le

/-- Sessions at desks that differ in the contents only give the same product. -/
theorem outcome_of_beside {x y : Session σ} (hbeside : Beside x y) (transcript : Array String) :
    (t.outcome y transcript).map Typeset.product = (t.outcome x transcript).map Typeset.product := by
  have hread : y.desk.readBack t.config.outputFile = x.desk.readBack t.config.outputFile := by
    rw [hbeside]
    rfl
  have hfinished : y.desk.finished = x.desk.finished := by
    rw [hbeside]
    rfl
  simp only [outcome, hread, hfinished]
  split
  · split <;> rfl
  · rfl

/-- Runs that end alike, at desks that differ in the contents only, give the same product. -/
theorem product_of_paired {ready : Desk} {x y : Session σ}
    (hx : Session.start t.host t.engine t.config.memoryPages t.image desk asked = (.ok (), x))
    (hy : Session.start t.host t.engine t.config.memoryPages t.image ready asked = (.ok (), y))
    (hpaired : Paired Beside (Session.run t.host t.budget x) (Session.run t.host t.budget y)) :
    (t.typesetAt r desk asked).1.map Typeset.product = (t.typesetAt r ready asked).1.map Typeset.product := by
  have hconsole {s s' : Session σ} (hbeside : Beside s s') : s'.desk.console = s.desk.console := by
    rw [hbeside]
    rfl
  simp only [typesetAt, hx, hy]
  generalize Session.run t.host t.budget x = rx at hpaired ⊢
  generalize Session.run t.host t.budget y = ry at hpaired ⊢
  cases hpaired with
  | ok hbeside =>
    simp only [hconsole hbeside]
    exact (outcome_of_beside hbeside _).symm
  | error hbeside => simp only [hconsole hbeside]

/-- Setting up misses nothing and fetches nothing. -/
theorem isCompleted_of_mem_setupHistory {desk : Desk} {asked : Array String} {happening : Happening}
    (hmem : happening ∈ setupHistory t.host t.engine t.config.memoryPages t.image desk asked) :
    happening.isCompleted = true := by
  rw [setupHistory] at hmem
  split at hmem
  · exact isCompleted_of_mem_startHistory hmem
  · cases hmem

/-- The files that are fetched are what the second desk is ahead by. -/
theorem ahead_of_insertAll {l : List Happening} {d x y : Desk}
    (hcontent : ∀ {name content}, .fetched name content ∈ l → t.loader.content? name = some content)
    (hx : x.contents = d.contents) (hy : y.contents = (d.insertAll (fetched l)).contents) : Ahead l x y where
  fetched {name content} hmem := by
    rw [hy]
    refine Desk.getElem?_insertAll_of_mem (fun content' hmem' => ?_) ⟨content, mem_fetched.mpr hmem⟩
    exact Option.some.inj ((hcontent (mem_fetched.mp hmem')).symm.trans (hcontent hmem))
  others hnot := by
    rw [hx, hy]
    exact Desk.getElem?_insertAll_of_not_mem fun content hmem => hnot content (mem_fetched.mp hmem)

/-- What two runs have in common of which the second one need not fetch what the first one
fetches: `r` and `r'` are their results, `l` and `l'` their histories. -/
structure Transparent (l l' : List Happening) (r r' : Except TypesetError Typeset) : Prop where
  /-- The second run completes what the first one completes, with the same results. -/
  completed : completed l <+: completed l'
  /-- It does not suspend the guest for what the first one fetches. -/
  missed : ∀ {name content}, (name, content) ∈ fetched l → .missed name ∉ l'
  /-- If the first run comes to an end then the second one completes no more, and gives the
  same page, transcript and final mark, or the same error. -/
  ended : (∀ transcript, r ≠ .error (.outOfFuel transcript)) →
    Session.completed l = Session.completed l' ∧ r.map Typeset.product = r'.map Typeset.product

theorem transparent_at {same : σ → σ → Prop} (hconfig : t.config.check = .ok ())
    (he : t.engine.Resumable t.host.control same) (hdiscreet : t.engine.guest.Discreet t.host.control same)
    (r : Request) (desk : Desk) (asked : Array String) :
    Transparent (t.historyAt desk asked)
      (t.historyAt (desk.insertAll (fetched (t.historyAt desk asked))) asked) (t.typesetAt r desk asked).1
      (t.typesetAt r (desk.insertAll (fetched (t.historyAt desk asked))) asked).1 := by
  generalize hearly : desk.insertAll (fetched (t.historyAt desk asked)) = ready
  have hready : ready = desk.withContents ready.contents := by
    rw [← hearly]
    exact Desk.insertAll_eq ..
  obtain ⟨hsetup, result, x, y, hx, hy, htwin, hconsole⟩ :=
    paired_start (h := t.host) he rfl (room_of_check hconfig) t.image desk asked ready.contents
  rw [← hready] at hsetup hy
  have hquiet (happening : Happening)
      (hmem : happening ∈ setupHistory t.host t.engine t.config.memoryPages t.image desk asked) :
      happening.isCompleted = true := isCompleted_of_mem_setupHistory hmem
  -- where setting up fails there is no run, and otherwise one run follows the other
  cases result with
  | error e =>
    have hhistory : t.historyAt ready asked = t.historyAt desk asked := by
      rw [historyAt, historyAt, hsetup, hx, hy]
    refine ⟨hhistory ▸ List.prefix_rfl, fun _ hmem => ?_, fun _ => ⟨by rw [hhistory], ?_⟩⟩
    · rw [historyAt, hy, hsetup, List.append_nil] at hmem
      cases hquiet _ hmem
    · simp only [typesetAt, hx, hy]
  | ok u =>
    have hl := historyAt_of_start hx
    have hl' := historyAt_of_start hy
    rw [hsetup] at hl'
    have htwin := htwin rfl
    have hrun {name content} (hmem : .fetched name content ∈ t.historyAt desk asked) :
        .fetched name content ∈ runHistory t.host t.budget x := by
      rw [hl, List.mem_append] at hmem
      exact hmem.resolve_left fun hmem => nomatch hquiet _ hmem
    have hahead : Ahead (t.historyAt desk asked) x.desk y.desk :=
      ahead_of_insertAll (fun hmem => content_of_mem_runHistory htwin.synced.first (hrun hmem)) htwin.first
        (htwin.second.trans (congrArg Desk.contents hearly.symm))
    have hfollows : Follows (runHistory t.host t.budget x) (Session.run t.host t.budget x)
        (runHistory t.host t.budget y) (Session.run t.host t.budget y) := follows_run he.guest hdiscreet htwin.synced
      ⟨fun hmem => hahead.fetched (hl ▸ List.mem_append_right _ hmem), fun hnot => hahead.others fun content hmem =>
        hnot content (hrun hmem)⟩
    refine ⟨?_, ?_, ?_⟩
    · rw [hl, hl', completed_append, completed_append]
      exact (List.prefix_append_right_inj _).mpr hfollows.heard
    · intro name content hfetched hmem
      rw [hl', List.mem_append] at hmem
      rcases hmem with hmem | hmem
      · cases hquiet _ hmem
      · have hstored := hahead.fetched (mem_fetched.mp hfetched)
        exact not_missed_of_knows (Or.inr (Or.inl (by rw [hstored]; rfl))) htwin.synced.second _ hmem
    · intro hended
      obtain ⟨hcompleted, hpaired⟩ := hfollows.ended (run_ne_outOfFuel hx hended)
      exact ⟨by rw [hl, hl', completed_append, completed_append, hcompleted], product_of_paired hx hy hpaired⟩

/-- **Suspension is transparent.**  Let the engine have a guest that can be suspended, that
hands nothing of the control words to the host, and that does not ask for the time.  Then
typesetting with the files on the desk that were fetched while the guest ran, at whatever
time, completes the same calls, comes to the same end, and fetches none of these files. -/
theorem suspension_transparent {same : σ → σ → Prop} (hconfig : t.config.check = .ok ())
    (he : t.engine.Resumable t.host.control same) (hdiscreet : t.engine.guest.Discreet t.host.control same)
    (hclock : t.engine.Clockless) (clock : Clock) (r : Request) :
    Transparent (t.historyWith [] r) ((t.withClock clock).historyWith (fetched (t.historyWith [] r)) r)
      (t.typeset r).1 ((t.withClock clock).typesetWith (fetched (t.historyWith [] r)) r).1 := by
  simp only [historyWith, typesetWith, setOut_withClock, ← typesetWith_nil t r]
  cases t.setOut r #[] with
  | error e asked => exact ⟨List.prefix_rfl, fun _ => List.not_mem_nil, fun _ => ⟨rfl, rfl⟩⟩
  | ok desk asked =>
    simp only [Desk.insertAll_nil, historyAt_withClock hclock, typesetAt_withClock hclock]
    exact transparent_at hconfig he hdiscreet r desk asked

end Typesetter
end Galley
