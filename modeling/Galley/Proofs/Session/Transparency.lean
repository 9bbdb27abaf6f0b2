import Galley.Proofs.Session.Suspending

/-! # A run with its files and a run that has to fetch them

Two sessions are `Synced` if a guest that can be suspended is at the same point in both, and
they differ in the contents of the desk and the control words only.  If the second desk is
`Ahead` by what the first session is still to fetch, then the second session does all that
the first one does, except that it misses less (`follows`): the completed calls are the same,
and if the first session comes to an end the second one comes to the same. -/
namespace Galley

/-- A call was completed. -/
def Happening.isCompleted : Happening → Bool
  | .completed .. => true
  | _ => false

namespace Session
open Serving

variable {σ : Type} {h : Host σ} {same : σ → σ → Prop} {x y : Session σ}

/-- The completed calls of a history. -/
def completed (l : List Happening) : List Happening := l.filter Happening.isCompleted

theorem completed_append (l l' : List Happening) : completed (l ++ l') = completed l ++ completed l' :=
  List.filter_append ..

theorem completed_fetched (name : String) (content? : Option ByteArray) :
    completed (content?.toList.map (.fetched name)) = [] := by
  cases content? <;> rfl

/-- The desks differ in their contents only. -/
def Beside (x y : Session σ) : Prop := y.desk = x.desk.withContents y.desk.contents

/-- A guest at the same point of two sessions. -/
structure Synced (h : Host σ) (same : σ → σ → Prop) (x y : Session σ) : Prop where
  guest : same x.guest y.guest
  memory : h.control.Alike x.memory y.memory
  desk : Beside x y
  first : Runs h x
  second : Runs h y

theorem Beside.symm (hbeside : Beside x y) : Beside y x := by
  rw [Beside, hbeside]
  rfl

theorem Synced.symm (hsync : Synced h same x y) (hg : h.guest.Resumable h.control same) : Synced h same y x :=
  ⟨hg.symm hsync.guest, hsync.memory.symm, hsync.desk.symm, hsync.second, hsync.first⟩

/-- The second desk has what is fetched in a history, and beyond it what the first one has. -/
structure Ahead (l : List Happening) (d d' : Desk) : Prop where
  fetched : ∀ {name content}, .fetched name content ∈ l → d'.contents[name]? = some content
  others : ∀ {name}, (∀ content, .fetched name content ∉ l) → d'.contents[name]? = d.contents[name]?

/-- One run completes what another one completes, and comes to the same end. -/
structure Follows (l : List Happening) (r : EStateM.Result Stop (Session σ) Unit) (l' : List Happening)
    (r' : EStateM.Result Stop (Session σ) Unit) : Prop where
  heard : completed l <+: completed l'
  ended : (∀ s, r ≠ .error .outOfFuel s) → completed l = completed l' ∧ Paired Beside r r'

/-! ## Putting turns before runs -/

variable {turn turn' : Turn} {e e' l l' : List Happening}
  {r r' : EStateM.Result Stop (Session σ) Turn} {z z' : EStateM.Result Stop (Session σ) Unit} {n m : Nat}

theorem follows_zero (h : Host σ) (turn : Turn) (x : Session σ) (l' : List Happening)
    (z' : EStateM.Result Stop (Session σ) Unit) :
    Follows (history h 0 turn x) (runTurns h 0 turn x) l' z' where
  heard := List.nil_prefix
  ended hended := absurd rfl (hended x)

/-- A turn of both. -/
theorem Follows.lead (hx : Leads h turn x e r) (hy : Leads h turn' y e' r') (he : completed e = completed e')
    (hrest : Follows (historyAfter h n r) (runAfter h n r) (historyAfter h m r') (runAfter h m r')) :
    Follows (history h (n + 1) turn x) (runTurns h (n + 1) turn x) (history h (m + 1) turn' y)
      (runTurns h (m + 1) turn' y) := by
  rw [(hx n).1, (hx n).2, (hy m).1, (hy m).2]
  constructor
  · rw [completed_append, completed_append, he]
    exact (List.prefix_append_right_inj _).mpr hrest.heard
  · intro hended
    obtain ⟨hcompleted, hpaired⟩ := hrest.ended hended
    rw [completed_append, completed_append, he, hcompleted]
    exact ⟨rfl, hpaired⟩

/-- A turn of the first run in which nothing is completed. -/
theorem Follows.behind (hx : Leads h turn x e r) (he : completed e = [])
    (hrest : Follows (historyAfter h n r) (runAfter h n r) l' z') :
    Follows (history h (n + 1) turn x) (runTurns h (n + 1) turn x) l' z' := by
  rw [(hx n).1, (hx n).2]
  constructor
  · rw [completed_append, he]
    exact hrest.heard
  · rw [completed_append, he]
    exact hrest.ended

/-- An error that ends both. -/
theorem follows_error (hbeside : Beside x y) (cause : Stop) :
    Follows (historyAfter h n (.error cause x)) (runAfter h n (.error cause x))
      (historyAfter h m (.error cause y)) (runAfter h m (.error cause y)) where
  heard := List.prefix_rfl
  ended _ := ⟨rfl, .error hbeside⟩

/-- What is ahead stays ahead over a turn in which nothing is stored. -/
theorem Ahead.tail {d d' dx dy : Desk} (hahead : Ahead (e ++ l) d d') (he : ∀ name content, .fetched name content ∉ e)
    (hx : dx.contents = d.contents) (hy : dy.contents = d'.contents) : Ahead l dx dy where
  fetched hmem := by
    rw [hy]
    exact hahead.fetched (List.mem_append_right _ hmem)
  others hnot := by
    rw [hx, hy]
    refine hahead.others fun content hmem => ?_
    rcases List.mem_append.mp hmem with hmem | hmem
    · exact he _ _ hmem
    · exact hnot content hmem

/-! ## Steps of both -/

/-- The host runs a guest that can be suspended, and can enter it. -/
structure Suits (h : Host σ) (same : σ → σ → Prop) : Prop where
  resumable : h.guest.Resumable h.control same
  discreet : h.guest.Discreet h.control same
  canCall : h.canCall (h.guest.callsOn .main)

namespace Synced

theorem steppedBy (hsync : Synced h same x y) {step : σ → Memory → Action σ}
    (halike : (step x.guest x.memory).Alike h.control same (step y.guest y.memory))
    (hsize : ∀ s m, (step s m).memory.size = m.size) : Synced h same (x.stepped step) (y.stepped step) where
  guest := halike.state
  memory := halike.memory
  desk := hsync.desk
  first := ⟨hsync.first.running, hsync.first.pending, by simpa only [Session.stepped, hsize] using hsync.first.room⟩
  second := ⟨hsync.second.running, hsync.second.pending, by simpa only [Session.stepped, hsize]
    using hsync.second.room⟩

theorem stepped (hsync : Synced h same x y) (hsuits : Suits h same) :
    Synced h same (x.stepped h.guest.step) (y.stepped h.guest.step) :=
  hsync.steppedBy (hsuits.resumable.step hsync.guest hsync.memory) hsuits.resumable.size

/-- Only the guests move, to states that are the same. -/
theorem withGuests (hsync : Synced h same x y) {s s' : σ} (hsame : same s s') :
    Synced h same { x with guest := s } { y with guest := s' } :=
  ⟨hsame, hsync.memory, hsync.desk, hsync.first.moved s x.desk, hsync.second.moved s' y.desk⟩

/-- Both guests take the return of a call alike. -/
theorem answered (hsync : Synced h same x y) (hg : h.guest.Resumable h.control same) (result : Option Int32) :
    ∃ turn x' y', Session.answered h (.ok result x) = .ok turn x' ∧ Session.answered h (.ok result y) = .ok turn y' ∧
      Synced h same x' y' ∧ x'.desk = x.desk ∧ y'.desk = y.desk := by
  have halike := hg.resume hsync.guest result
  simp only [Session.answered]
  generalize h.guest.resume x.guest result = a at halike ⊢
  generalize h.guest.resume y.guest result = a' at halike ⊢
  cases halike with
  | goOn hsame => exact ⟨_, _, _, rfl, rfl, hsync.withGuests hsame, rfl, rfl⟩
  | leave hsame => exact ⟨_, _, _, rfl, rfl, hsync.withGuests hsame, rfl, rfl⟩

end Synced

/-- What a call that opens no file leaves. -/
theorem Synced.abreast {x' y' : Session σ} (hsync : Synced h same x y)
    (habreast : Abreast h.control x y x' y') : Synced h same x' y' := by
  have hdesk : y'.desk = x'.desk.withContents y.desk.contents := habreast.seat.desk
  have hbeside : Beside x' y' := by
    rw [Beside, hdesk]
    rfl
  have hsize : x'.memory.size = x.memory.size := habreast.seat.size
  have hmemory : h.control.Alike x'.memory y'.memory := habreast.seat.memory
  have hx := habreast.first
  have hy := habreast.second
  refine ⟨?_, hmemory, hbeside, ⟨?_, ?_, ?_⟩, ⟨?_, ?_, ?_⟩⟩
  · rw [hx, hy]
    exact hsync.guest
  · rw [hx]
    exact hsync.first.running
  · rw [hx]
    exact hsync.first.pending
  · rw [hsize]
    exact hsync.first.room
  · rw [hy]
    exact hsync.second.running
  · rw [hy]
    exact hsync.second.pending
  · rw [← hmemory.size, hsize]
    exact hsync.first.room

/-- From wherever the guest is at the same point of two sessions, the second run follows the
first one over so many turns. -/
def Matched (h : Host σ) (same : σ → σ → Prop) (n : Nat) : Prop :=
  ∀ m turn x y, n ≤ m → Synced h same x y → Ahead (history h n turn x) x.desk y.desk →
    Follows (history h n turn x) (runTurns h n turn x) (history h m turn y) (runTurns h m turn y)

/-- A call that is completed in both. -/
theorem Matched.answered (hmatched : Matched h same n) (hsuits : Suits h same) (hnm : n ≤ m)
    (hsync : Synced h same x y) {result : Option Int32}
    (hahead : Ahead (historyAfter h n (answered h (.ok result x))) x.desk y.desk) :
    Follows (historyAfter h n (answered h (.ok result x))) (runAfter h n (answered h (.ok result x)))
      (historyAfter h m (answered h (.ok result y))) (runAfter h m (answered h (.ok result y))) := by
  obtain ⟨turn, x', y', hx, hy, hsync', hdx, hdy⟩ := hsync.answered hsuits.resumable result
  rw [hx, ← hdx, ← hdy] at hahead
  rw [hx, hy]
  exact hmatched m turn x' y' hnm hsync' hahead

/-- A call that is completed in both sessions, with nothing stored in between. -/
theorem Matched.completed (hmatched : Matched h same n) (hsuits : Suits h same) (hnm : n ≤ m)
    {call : Call Int32} (hcall : (h.guest.step x.guest x.memory).move = .call call)
    (hcall' : (h.guest.step y.guest y.memory).move = .call call) {result : Option Int32} {x' y' : Session σ}
    (hx : serve h call (x.stepped h.guest.step) = .ok result x')
    (hy : serve h call (y.stepped h.guest.step) = .ok result y') (hsync : Synced h same x' y')
    (hcount : x'.suspension.count = x.suspension.count) (hcount' : y'.suspension.count = y.suspension.count)
    (hcontents : x'.desk.contents = x.desk.contents) (hcontents' : y'.desk.contents = y.desk.contents)
    (hahead : Ahead (history h (n + 1) .guest x) x.desk y.desk) :
    Follows (history h (n + 1) .guest x) (runTurns h (n + 1) .guest x) (history h (m + 1) .guest y)
      (runTurns h (m + 1) .guest y) := by
  have hleads := leads_of_completed hcall hx hcount
  rw [(hleads n).1] at hahead
  refine .lead hleads (leads_of_completed hcall' hy hcount') ?_ ?_
  · rw [hsync.memory.veil_eq]
  · refine hmatched.answered hsuits hnm hsync (hahead.tail (fun name content hmem => ?_) hcontents hcontents')
    simp at hmem

/-- A call that opens no file. -/
theorem Matched.ordinary (hmatched : Matched h same n) (hsuits : Suits h same) (hnm : n ≤ m)
    (hsync : Synced h same x y) {call : Call Int32} (hcall : (h.guest.step x.guest x.memory).move = .call call)
    (hopen : call.isOpen = false) (hahead : Ahead (history h (n + 1) .guest x) x.desk y.desk) :
    Follows (history h (n + 1) .guest x) (runTurns h (n + 1) .guest x) (history h (m + 1) .guest y)
      (runTurns h (m + 1) .guest y) := by
  have halike := hsuits.resumable.step hsync.guest hsync.memory
  have hstepped := hsync.stepped hsuits
  have hself : same x.guest x.guest := hsuits.resumable.trans hsync.guest (hsuits.resumable.symm hsync.guest)
  have hcall' : (h.guest.step y.guest y.memory).move = .call call := halike.move.symm.trans hcall
  have habreast : Abreast h.control (x.stepped h.guest.step) (y.stepped h.guest.step) (x.stepped h.guest.step)
      (y.stepped h.guest.step) := ⟨⟨.refl _, rfl, hstepped.desk, hstepped.memory⟩, rfl, rfl⟩
  have hserve := paired_serve habreast h hopen (hsuits.discreet hself hcall halike.memory)
  -- both guests make the call, and a call that opens no file does not see what is stored
  cases hrx : serve h call (x.stepped h.guest.step) with
  | error cause x' =>
    have hx := leads_of_call hcall
    have hy := leads_of_call hcall'
    rw [hrx] at hserve hx
    generalize serve h call (y.stepped h.guest.step) = ry at hserve hy
    cases hserve with
    | error hafter => exact .lead hx hy rfl (follows_error (hstepped.abreast hafter).desk _)
  | ok result x' =>
    rw [hrx] at hserve
    cases hry : serve h call (y.stepped h.guest.step) with
    | error cause y' =>
      rw [hry] at hserve
      cases hserve
    | ok result' y' =>
      rw [hry] at hserve
      cases hserve with
      | ok hafter =>
        refine hmatched.completed hsuits hnm hcall hcall' hrx hry (hstepped.abreast hafter) ?_ ?_ ?_ ?_ hahead
        · rw [hafter.first]
          rfl
        · rw [hafter.second]
          rfl
        · exact hafter.seat.kept.contents
        · have hdesk : y'.desk = x'.desk.withContents y.desk.contents := hafter.seat.desk
          rw [hdesk]
          rfl

/-! ## Opens -/

/-- The call is an open of this direction. -/
structure Opens (call : Call Int32) (mode : Mode) (length pointer : Int32) : Prop where
  serve : ∀ (h : Host σ) s, Session.serve h call s = (some <$> openNamed h mode length pointer) s
  handed : ∀ m, call.handed m = m.read (Memory.address pointer) (Memory.address length)
  reset : mode = .read → call = .reset length pointer

variable {call : Call Int32} {mode : Mode} {length pointer : Int32} {raw : ByteArray}

/-- What is known when a call returns is not fetched after it. -/
theorem not_fetched_after {name : String} (hknows : x.desk.Knows name) (hpending : x.suspension.pending = none)
    (result : Option Int32) (content : ByteArray) (budget : Nat) :
    .fetched name content ∉ historyAfter h budget (answered h (.ok result x)) := by
  have hother : x.suspension.pending ≠ some name := by simp [hpending]
  simp only [answered]
  split
  next guest _ => exact (not_mem_history_of_knows (s := { x with guest }) hknows hother budget _).2 content
  next guest _ => exact (not_mem_history_of_knows (s := { x with guest }) hknows hother budget _).2 content

/-- An open that gives a handle to the first guest at once. -/
theorem Matched.pushed (hmatched : Matched h same n) (hsuits : Suits h same) (hnm : n ≤ m)
    (hsync : Synced h same x y) (hcall : (h.guest.step x.guest x.memory).move = .call call)
    (hopens : Opens (σ := σ) call mode length pointer) {handle : Nat} {d : Desk}
    (hread : (x.stepped h.guest.step).memory.read (Memory.address pointer) (Memory.address length) = .ok raw)
    (hread' : (y.stepped h.guest.step).memory.read (Memory.address pointer) (Memory.address length) = .ok raw)
    (hopen : x.desk.openRaw raw mode false = (.opened handle, d))
    (hahead : Ahead (history h (n + 1) .guest x) x.desk y.desk) :
    Follows (history h (n + 1) .guest x) (runTurns h (n + 1) .guest x) (history h (m + 1) .guest y)
      (runTurns h (m + 1) .guest y) := by
  have hstepped := hsync.stepped hsuits
  have hcall' := (hsuits.resumable.step hsync.guest hsync.memory).move.symm.trans hcall
  have hawake : (x.stepped h.guest.step).suspension.phase ≠ .sleeping := by simp [hstepped.first.running]
  have hawake' : (y.stepped h.guest.step).suspension.phase ≠ .sleeping := by simp [hstepped.second.running]
  let x' : Session σ := { x.stepped h.guest.step with desk := d }
  have hserve : Session.serve h call (x.stepped h.guest.step) = .ok (some (Int32.ofNat handle)) x' :=
    (hopens.serve h _).trans (map_of_ok (openNamed_of_opened hawake hread hopen) some)
  have hleads := leads_of_completed hcall hserve rfl
  -- after this turn the first session knows the name and does not fetch it, so the desks
  -- agree on it
  have hsame {name : String} (hparse : FileName.parse raw.data.toList = .file name) :
      y.desk.contents[name]? = x.desk.contents[name]? := by
    refine hahead.others fun content hmem => ?_
    rw [(hleads n).1, List.mem_append] at hmem
    rcases hmem with hmem | hmem
    · simp at hmem
    · have hknows : x'.desk.Knows name := Desk.knows_of_openRaw hopen hparse
      exact not_fetched_after hknows hsync.first.pending _ content n hmem
  have hopen' : y.desk.openRaw raw mode false = (.opened handle, d.withContents y.desk.contents) := by
    rw [hsync.desk, Desk.openRaw_withContents hsame, hopen]
    rfl
  let y' : Session σ := { y.stepped h.guest.step with desk := d.withContents y.desk.contents }
  have hserve' : Session.serve h call (y.stepped h.guest.step) = .ok (some (Int32.ofNat handle)) y' :=
    (hopens.serve h _).trans (map_of_ok (openNamed_of_opened hawake' hread' hopen') some)
  have hsync' : Synced h same x' y' :=
    ⟨hstepped.guest, hstepped.memory, rfl, hstepped.first.moved _ _, hstepped.second.moved _ _⟩
  have hcontents := x.desk.contents_openRaw raw mode false
  rw [hopen] at hcontents
  exact hmatched.completed hsuits hnm hcall hcall' hserve hserve' hsync' rfl rfl hcontents rfl hahead

/-- What is ahead stays ahead over a miss and the fetch that it leads to. -/
theorem Ahead.cycle {name : String} {d d' dx dy : Desk} {happening : Happening}
    (hahead : Ahead ([.missed name] ++
      ((h.loader.content? name).toList.map (.fetched name) ++ ([happening] ++ l))) d d')
    (hhappening : ∀ name content, .fetched name content ∉ [happening])
    (hx : dx.contents = (stocked h name d).contents) (hy : dy.contents = d'.contents) : Ahead l dx dy where
  fetched hmem := by
    rw [hy]
    exact hahead.fetched (List.mem_append_right _ (List.mem_append_right _ (List.mem_append_right _ hmem)))
  others {name'} hnot := by
    rw [hx, hy, stocked]
    -- the desks agree on the fetched name because it has just been stored, and on the others
    -- as they did before
    cases hcontent : h.loader.content? name with
    | some content =>
      rw [hcontent] at hahead
      by_cases hname : name = name'
      · subst hname
        rw [hahead.fetched (List.mem_append_right _ (List.mem_append_left _ (List.mem_singleton_self _)))]
        exact Std.HashMap.getElem?_insert_self.symm
      · have hother : (d.insert name content).contents[name']? = d.contents[name']? := by
          rw [Desk.insert, Std.HashMap.getElem?_insert, if_neg (by simpa using hname)]
        dsimp only
        rw [hother]
        refine hahead.others fun content' hmem => ?_
        simp only [List.mem_append, List.mem_singleton, reduceCtorEq, false_or, Option.toList_some, List.map_cons,
          List.map_nil, Happening.fetched.injEq] at hmem
        rcases hmem with ⟨hsame, -⟩ | hmem | hmem
        · exact hname hsame.symm
        · exact hhappening name' content' (List.mem_singleton.mpr hmem)
        · exact hnot content' hmem
    | none =>
      rw [hcontent] at hahead
      refine hahead.others fun content' hmem => ?_
      simp only [List.mem_append, List.mem_singleton, reduceCtorEq, false_or, Option.toList_none, List.map_nil,
        List.not_mem_nil] at hmem
      rcases hmem with hmem | hmem
      · exact hhappening name' content' (List.mem_singleton.mpr hmem)
      · exact hnot content' hmem

theorem stocked_withContents (name : String) (d : Desk) (contents : Std.HashMap String ByteArray) :
    (stocked h name d).withContents contents = d.withContents contents := by
  unfold stocked
  split <;> rfl

/-- A guest that misses comes back. -/
theorem Synced.cycle (hsync : Synced h same x y) (hsuits : Suits h same) {name : String}
    (hmissing : Missing h x length pointer raw name) :
    ∃ handle away rewound x', Cycle h same x length pointer raw name handle away rewound x' := by
  have hg := hsuits.resumable
  have hself : same x.guest x.guest := hg.trans hsync.guest (hg.symm hsync.guest)
  have hread {m' : Memory} (hm : h.control.Alike (x.stepped h.guest.step).memory m') :
      m'.read (Memory.address pointer) (Memory.address length) = .ok raw :=
    (hsuits.discreet hself hmissing.move hm).symm.trans hmissing.read
  exact hmissing.cycle hg hread hself hsync.first (canCall_of_call hg hsuits.canCall hmissing.move)

/-- What only the second desk has is what the first session is still to fetch. -/
theorem Ahead.content_eq {budget : Nat} {name : String} {content : ByteArray}
    (hahead : Ahead (history h budget turn x) x.desk y.desk) (hpending : x.suspension.pending = none)
    (hunknown : ¬ x.desk.Knows name) (hstored : y.desk.contents[name]? = some content) :
    h.loader.content? name = some content := by
  -- a name that is never fetched is one that the desks agree on
  have hfetched : ∃ content', .fetched name content' ∈ history h budget turn x := by
    refine Classical.byContradiction fun hnever => ?_
    have hsame : y.desk.contents[name]? = x.desk.contents[name]? :=
      hahead.others fun content' hmem => hnever ⟨content', hmem⟩
    rw [hstored] at hsame
    exact hunknown (Or.inr (Or.inl (by rw [← hsame]; rfl)))
  obtain ⟨content', hmem⟩ := hfetched
  have hwaits : x.Waits := fun name hname => by
    rw [hpending] at hname
    cases hname
  rw [content_of_mem_history hwaits hmem, ← hahead.fetched hmem, hstored]

/-- What the first session is to fetch, the second desk has. -/
theorem Ahead.content_eq_none {name : String} {d d' : Desk}
    (hahead : Ahead ([.missed name] ++ ((h.loader.content? name).toList.map (.fetched name) ++ l)) d d')
    (hnone : d'.contents[name]? = none) : h.loader.content? name = none := by
  cases hcontent : h.loader.content? name with
  | none => rfl
  | some content =>
    rw [hcontent] at hahead
    have hstored : d'.contents[name]? = some content :=
      hahead.fetched (List.mem_append_right _ (List.mem_append_left _ (List.mem_singleton_self _)))
    rw [hnone] at hstored
    cases hstored

/-- A file that is stored is opened as the file that is fetched. -/
theorem openRaw_of_fetched {d d' e : Desk} {name : String} {content : ByteArray} {handle : Nat}
    (hbeside : d' = d.withContents d'.contents) (hparse : FileName.parse raw.data.toList = .file name)
    (hunknown : ¬ d.Knows name) (hstored : d'.contents[name]? = some content)
    (hcontent : h.loader.content? name = some content)
    (hopened : (stocked h name d).openRaw raw .read true = (.opened handle, e)) :
    d'.openRaw raw .read false = (.opened handle, e.withContents d'.contents) := by
  have hstocked : d' = (stocked h name d).withContents d'.contents := by
    rw [stocked_withContents]
    exact hbeside
  have hagree {name' : String} (hparse' : FileName.parse raw.data.toList = .file name') :
      d'.contents[name']? = (stocked h name d).contents[name']? := by
    obtain rfl := FileName.file.inj (hparse.symm.trans hparse')
    rw [stocked_getElem? hunknown, hstored, hcontent]
  rw [Desk.openRaw_of_stored hparse hstored .read false true, hstocked, Desk.openRaw_withContents hagree, hopened]
  rfl

/-- An open that the first guest has to wait for, of a file that the second one finds. -/
theorem Matched.waited (hmatched : ∀ k ≤ n, Matched h same k) (hsuits : Suits h same) (hnm : n ≤ m)
    (hsync : Synced h same x y) {name : String} {content : ByteArray}
    (hparse : FileName.parse raw.data.toList = .file name)
    (hmissing : Missing h x length pointer raw name)
    (hread' : (y.stepped h.guest.step).memory.read (Memory.address pointer) (Memory.address length) = .ok raw)
    (hstored : y.desk.contents[name]? = some content)
    (hahead : Ahead (history h (n + 1) .guest x) x.desk y.desk) :
    Follows (history h (n + 1) .guest x) (runTurns h (n + 1) .guest x) (history h (m + 1) .guest y)
      (runTurns h (m + 1) .guest y) := by
  have hstepped := hsync.stepped hsuits
  have hg := hsuits.resumable
  have hcall' := (hg.step hsync.guest hsync.memory).move.symm.trans hmissing.move
  obtain ⟨handle, away, rewound, x', hcycle⟩ := hsync.cycle hsuits hmissing
  have hreopened := hcycle.reopened
  have hcontent : h.loader.content? name = some content :=
    hahead.content_eq hsync.first.pending hmissing.unknown hstored
  have hopen' : y.desk.openRaw raw .read false = (.opened handle, x'.desk.withContents y.desk.contents) :=
    openRaw_of_fetched hsync.desk hparse hmissing.unknown hstored hcontent hreopened.opened
  let y' : Session σ := { y.stepped h.guest.step with desk := x'.desk.withContents y.desk.contents }
  have hawake' : (y.stepped h.guest.step).suspension.phase ≠ .sleeping := by simp [hstepped.second.running]
  have hserve' : serve h (.reset length pointer) (y.stepped h.guest.step) = .ok (some (Int32.ofNat handle)) y' :=
    map_of_ok (openNamed_of_opened hawake' hread' hopen') some
  have hsync' : Synced h same x' y' :=
    ⟨hg.trans (hg.symm hreopened.guest) hstepped.guest, hreopened.memory.symm.trans hstepped.memory, rfl,
      hreopened.runs hstepped.first, hstepped.second.moved _ _⟩
  have hcontents := (stocked h name x.desk).contents_openRaw raw .read true
  rw [hreopened.opened] at hcontents
  -- the first run needs three turns where the second one needs one, and may run out of them
  -- on the way
  match n, hnm, hmatched, hahead with
  | 0, _, _, _ => exact .behind hcycle.missed rfl (follows_zero h .host away ..)
  | 1, _, _, _ =>
    exact .behind hcycle.missed rfl (.behind hcycle.fetched (completed_fetched ..) (follows_zero h .guest rewound ..))
  | n + 2, hnm, hmatched, hahead =>
    refine .behind hcycle.missed rfl (.behind hcycle.fetched (completed_fetched ..) (.lead hcycle.completed
      (leads_of_completed hcall' hserve' rfl) ?_ ?_))
    · rw [hsync'.memory.veil_eq]
    · rw [hcycle.history_eq] at hahead
      exact (hmatched n (by omega)).answered hsuits (by omega) hsync' (hahead.cycle (by simp) hcontents rfl)

/-- Two guests that come back to an open for which nothing could be had are given the same handle. -/
theorem Synced.reopened (hsync : Synced h same x y) (hg : h.guest.Resumable h.control same)
    (hagree : ∀ {name'}, FileName.parse raw.data.toList = .file name' →
      y.desk.contents[name']? = x.desk.contents[name']?)
    {handle handle' : Nat} {x' y' : Session σ} (hx : Reopened h same x raw x.desk handle x')
    (hy : Reopened h same y raw y.desk handle' y') :
    handle = handle' ∧ y'.desk = x'.desk.withContents y.desk.contents ∧ Synced h same x' y' := by
  have hboth : y.desk.openRaw raw .read true = (.opened handle, x'.desk.withContents y.desk.contents) := by
    rw [hsync.desk, Desk.openRaw_withContents hagree, hx.opened]
    rfl
  have hsame := hboth.symm.trans hy.opened
  have hdesk : y'.desk = x'.desk.withContents y.desk.contents := (congrArg Prod.snd hsame).symm
  have hbeside : Beside x' y' := by
    rw [Beside, hdesk]
    rfl
  refine ⟨OpenOutcome.opened.inj (congrArg Prod.fst hsame), hdesk, ?_, ?_, hbeside, hx.runs hsync.first,
    hy.runs hsync.second⟩
  · exact hg.trans (hg.symm hx.guest) (hg.trans hsync.guest hy.guest)
  · exact (hx.memory.symm.trans hsync.memory).trans hy.memory

/-- An open that both guests have to wait for: there is nothing to be had. -/
theorem Matched.missed (hmatched : ∀ k ≤ n, Matched h same k) (hsuits : Suits h same) (hnm : n ≤ m)
    (hsync : Synced h same x y) {name : String} (hparse : FileName.parse raw.data.toList = .file name)
    (hmissing : Missing h x length pointer raw name)
    (hread' : (y.stepped h.guest.step).memory.read (Memory.address pointer) (Memory.address length) = .ok raw)
    (hnone : y.desk.contents[name]? = none) (hahead : Ahead (history h (n + 1) .guest x) x.desk y.desk) :
    Follows (history h (n + 1) .guest x) (runTurns h (n + 1) .guest x) (history h (m + 1) .guest y)
      (runTurns h (m + 1) .guest y) := by
  have hg := hsuits.resumable
  have hunstored : x.desk.contents[name]? = none := by
    rw [← Option.not_isSome_iff_eq_none]
    exact fun hstored => hmissing.unknown (Or.inr (Or.inl hstored))
  have hagree {name' : String} (hparse' : FileName.parse raw.data.toList = .file name') :
      y.desk.contents[name']? = x.desk.contents[name']? := by
    obtain rfl := FileName.file.inj (hparse.symm.trans hparse')
    rw [hnone, hunstored]
  have hfetch' : y.desk.openRaw raw .read false = (.fetch name, y.desk) := by
    rw [hsync.desk, Desk.openRaw_withContents hagree, hmissing.fetch]
  have hmissing' : Missing h y length pointer raw name :=
    ⟨(hg.step hsync.guest hsync.memory).move.symm.trans hmissing.move, hread', hfetch', Desk.not_knows_of_fetch hfetch'⟩
  obtain ⟨handle, away, rewound, x', hcycle⟩ := hsync.cycle hsuits hmissing
  obtain ⟨handle', away', rewound', y', hcycle'⟩ := (hsync.symm hg).cycle hsuits hmissing'
  -- both runs need the same three turns; the first one may run out of them on the way
  match n, m, hnm, hmatched, hahead with
  | 0, _, _, _, _ => exact .behind hcycle.missed rfl (follows_zero h .host away ..)
  | 1, m + 1, _, _, _ =>
    exact .lead hcycle.missed hcycle'.missed rfl
      (.lead hcycle.fetched hcycle'.fetched rfl (follows_zero h .guest rewound ..))
  | n + 2, m + 2, hnm, hmatched, hahead =>
    rw [hcycle.history_eq] at hahead
    have hreopened := hcycle.reopened
    have hreopened' := hcycle'.reopened
    rw [stocked, hahead.content_eq_none hnone] at hreopened hreopened'
    obtain ⟨rfl, hdesk, hsync'⟩ := (hsync.stepped hsuits).reopened hg hagree hreopened hreopened'
    have hcontents := (stocked h name x.desk).contents_openRaw raw .read true
    rw [hcycle.reopened.opened] at hcontents
    refine .lead hcycle.missed hcycle'.missed rfl (.lead hcycle.fetched hcycle'.fetched rfl
      (.lead hcycle.completed hcycle'.completed ?_ ?_))
    · rw [hsync'.memory.veil_eq]
    · exact Matched.answered (hmatched n (by omega)) hsuits (by omega) hsync'
        (hahead.cycle (by simp) hcontents (by rw [hdesk]; rfl))

/-- An open. -/
theorem Matched.opens (hmatched : ∀ k ≤ n, Matched h same k) (hsuits : Suits h same) (hnm : n ≤ m)
    (hsync : Synced h same x y) (hcall : (h.guest.step x.guest x.memory).move = .call call)
    (hopens : Opens (σ := σ) call mode length pointer) (hahead : Ahead (history h (n + 1) .guest x) x.desk y.desk) :
    Follows (history h (n + 1) .guest x) (runTurns h (n + 1) .guest x) (history h (m + 1) .guest y)
      (runTurns h (m + 1) .guest y) := by
  have hg := hsuits.resumable
  have halike := hg.step hsync.guest hsync.memory
  have hself : same x.guest x.guest := hg.trans hsync.guest (hg.symm hsync.guest)
  have hcall' := halike.move.symm.trans hcall
  have hstepped := hsync.stepped hsuits
  have hhanded : call.handed (x.stepped h.guest.step).memory = call.handed (y.stepped h.guest.step).memory :=
    hsuits.discreet hself hcall halike.memory
  rw [hopens.handed, hopens.handed] at hhanded
  cases hread : (x.stepped h.guest.step).memory.read (Memory.address pointer) (Memory.address length) with
  | error fault =>
    have hawake : (x.stepped h.guest.step).suspension.phase ≠ .sleeping := by simp [hstepped.first.running]
    have hawake' : (y.stepped h.guest.step).suspension.phase ≠ .sleeping := by simp [hstepped.second.running]
    have hx := leads_of_call hcall
    have hy := leads_of_call hcall'
    rw [hopens.serve, map_of_error (openNamed_of_fault hawake hread)] at hx
    rw [hopens.serve, map_of_error (openNamed_of_fault hawake' (hhanded ▸ hread))] at hy
    exact .lead hx hy rfl (follows_error hstepped.desk _)
  | ok raw =>
    have hread' := hhanded.symm.trans hread
    -- the first guest is given a handle, or misses a name that is on the second desk or on neither
    rcases x.desk.openRaw_cases raw mode false with ⟨f, hpush⟩ | ⟨name, hparse, hfetch, rfl, -, hunknown⟩
    · exact Matched.pushed (hmatched n (Nat.le_refl n)) hsuits hnm hsync hcall hopens hread hread' hpush hahead
    · rw [hopens.reset rfl] at hcall
      have hmissing : Missing h x length pointer raw name := ⟨hcall, hread, hfetch, hunknown⟩
      cases hstored : y.desk.contents[name]? with
      | some content => exact Matched.waited hmatched hsuits hnm hsync hparse hmissing hread' hstored hahead
      | none => exact Matched.missed hmatched hsuits hnm hsync hparse hmissing hread' hstored hahead

/-! ## Whole runs -/

/-- A guest that has left its main function with nothing outstanding is done. -/
theorem done_of_runs (hruns : Runs h x) (n : Nat) :
    history h (n + 1) .host x = [] ∧ runTurns h (n + 1) .host x = .ok () x := by
  have hturn : takeTurn h .host x = .ok none x := takeTurn_of_running hruns.running
  rw [history, runTurns_succ, happenings, hturn, supplied, hruns.pending]
  exact ⟨rfl, rfl⟩

/-- **A run with its files follows a run that has to fetch them.** -/
theorem matched (hsuits : Suits h same) (n : Nat) : Matched h same n := by
  -- a missed open takes three turns, so the induction has to reach back further than one
  induction n using Nat.strongRecOn with
  | ind n ih =>
    intro m turn x y hnm hsync hahead
    match n, m, hnm with
    | 0, m, _ => exact follows_zero h turn x ..
    | n + 1, m + 1, hnm =>
      cases turn with
      | host =>
        obtain ⟨hx, hx'⟩ := done_of_runs hsync.first n
        obtain ⟨hy, hy'⟩ := done_of_runs hsync.second m
        rw [hx, hx', hy, hy']
        exact ⟨List.prefix_rfl, fun _ => ⟨rfl, .ok hsync.desk⟩⟩
      | guest =>
        have hmatched (k : Nat) (hk : k ≤ n) : Matched h same k := ih k (by omega)
        have hle : n ≤ m := by omega
        have halike := hsuits.resumable.step hsync.guest hsync.memory
        have hstepped := hsync.stepped hsuits
        have hx := leads_of_perform h x
        have hy := leads_of_perform h y
        cases hmove : (h.guest.step x.guest x.memory).move with
        | call call =>
          by_cases hopen : call.isOpen = true
          · cases call with
            | reset length pointer =>
              exact Matched.opens hmatched hsuits hle hsync hmove ⟨fun _ _ => rfl, fun _ => rfl, fun _ => rfl⟩ hahead
            | rewrite length pointer =>
              exact Matched.opens hmatched hsuits hle hsync hmove ⟨fun _ _ => rfl, fun _ => rfl, nofun⟩ hahead
            | _ => cases hopen
          · exact Matched.ordinary (hmatched n (Nat.le_refl n)) hsuits hle hsync hmove (by simpa using hopen) hahead
        | goOn =>
          rw [called, perform_eq, hmove] at hx
          rw [called, perform_eq, halike.move.symm.trans hmove] at hy
          rw [(hx n).1] at hahead
          exact .lead hx hy rfl (hmatched n (Nat.le_refl n) m .guest _ _ hle hstepped (hahead.tail (by simp) rfl rfl))
        | leave =>
          rw [called, perform_eq, hmove] at hx
          rw [called, perform_eq, halike.move.symm.trans hmove] at hy
          rw [(hx n).1] at hahead
          exact .lead hx hy rfl (hmatched n (Nat.le_refl n) m .host _ _ hle hstepped (hahead.tail (by simp) rfl rfl))
        | trap cause =>
          rw [called, perform_eq, hmove] at hx
          rw [called, perform_eq, halike.move.symm.trans hmove] at hy
          exact .lead hx hy rfl (follows_error hstepped.desk _)
        | spin =>
          rw [called, perform_eq, hmove] at hx
          rw [called, perform_eq, halike.move.symm.trans hmove] at hy
          exact .lead hx hy rfl (follows_error hstepped.desk _)

end Session
end Galley
