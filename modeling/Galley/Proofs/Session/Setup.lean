import Galley.Proofs.Session.Transparency

/-! # Setting up two sessions

A start function runs before any file can be opened, so it does the same at two desks that
differ in their contents only, and leaves two sessions in which the guest is at the same
point (`paired_start`). -/
namespace Galley.Session
open Serving

variable {σ : Type} {h : Host σ} {same : σ → σ → Prop} {x y : Session σ}

/-- A call that is served while a guest starts opens no file, and hands nothing over. -/
theorem paired_serveDetached {x₀ y₀ : Session σ} {b : ControlBlock} (habreast : Abreast b x₀ y₀ x y)
    (call : Call Int32) : Paired (Abreast b x₀ y₀) (serveDetached h call x) (serveDetached h call y) := by
  by_cases hmemory : call.usesMemory = true
  · simp only [serveDetached, hmemory, if_true]
    exact .throw habreast Stop.detached
  · simp only [serveDetached, hmemory]
    have hopen : call.isOpen = false := by
      cases call <;> first | rfl | exact absurd rfl hmemory
    have hhanded : call.handed x.memory = call.handed y.memory := by
      cases call <;> first | rfl | exact absurd rfl hmemory
    exact paired_serve habreast h hopen hhanded

/-- The guest is at the same point of two sessions whose desks have these contents. -/
structure Twin (h : Host σ) (same : σ → σ → Prop) (contents contents' : Std.HashMap String ByteArray)
    (x y : Session σ) : Prop where
  synced : Synced h same x y
  first : x.desk.contents = contents
  second : y.desk.contents = contents'

variable {contents contents' : Std.HashMap String ByteArray}

theorem Twin.abreast {x' y' : Session σ} (htwin : Twin h same contents contents' x y)
    (habreast : Abreast h.control x y x' y') : Twin h same contents contents' x' y' where
  synced := htwin.synced.abreast habreast
  first := habreast.seat.kept.contents.trans htwin.first
  second := by
    have hdesk : y'.desk = x'.desk.withContents y.desk.contents := habreast.seat.desk
    rw [hdesk]
    exact htwin.second

theorem Twin.answered (htwin : Twin h same contents contents' x y) (hg : h.guest.Resumable h.control same)
    (result : Option Int32) :
    Paired (Twin h same contents contents') (answered h (.ok result x)) (answered h (.ok result y)) := by
  obtain ⟨turn, x', y', hx, hy, hsync, hdx, hdy⟩ := htwin.synced.answered hg result
  rw [hx, hy]
  exact .ok ⟨hsync, hdx ▸ htwin.first, hdy ▸ htwin.second⟩

/-- A step of a start function. -/
theorem Twin.perform (htwin : Twin h same contents contents' x y) (hg : h.guest.Resumable h.control same)
    {step : σ → Memory → Action σ} (halike : (step x.guest x.memory).Alike h.control same (step y.guest y.memory))
    (hsize : ∀ s m, (step s m).memory.size = m.size) :
    Paired (Twin h same contents contents') (perform h (serveDetached h) step x) (perform h (serveDetached h) step y) ∧
      called h (serveDetached h) step x = called h (serveDetached h) step y := by
  have hstepped : Twin h same contents contents' (x.stepped step) (y.stepped step) :=
    ⟨htwin.synced.steppedBy halike hsize, htwin.first, htwin.second⟩
  rw [perform_eq, perform_eq, called, called, halike.move]
  cases (step y.guest y.memory).move with
  | goOn => exact ⟨.ok hstepped, rfl⟩
  | leave => exact ⟨.ok hstepped, rfl⟩
  | trap cause => exact ⟨.error hstepped, rfl⟩
  | spin => exact ⟨.error hstepped, rfl⟩
  | call call =>
    have habreast : Abreast h.control (x.stepped step) (y.stepped step) (x.stepped step) (y.stepped step) :=
      ⟨⟨.refl _, rfl, hstepped.synced.desk, hstepped.synced.memory⟩, rfl, rfl⟩
    have hserve := paired_serveDetached (h := h) habreast call
    dsimp only
    generalize serveDetached h call (x.stepped step) = rx at hserve ⊢
    generalize serveDetached h call (y.stepped step) = ry at hserve ⊢
    cases hserve with
    | error hafter => exact ⟨.error (hstepped.abreast hafter), rfl⟩
    | ok hafter =>
      have htwin' := hstepped.abreast hafter
      refine ⟨htwin'.answered hg _, ?_⟩
      rw [reported_of_completed, reported_of_completed, htwin'.synced.memory.veil_eq]
      · rw [hafter.second]
      · rw [hafter.first]

/-- A whole start function. -/
theorem Twin.runStart (htwin : Twin h same contents contents' x y) (hg : h.guest.Resumable h.control same)
    {steps : List (σ → Memory → Action σ)}
    (halike : ∀ {step}, step ∈ steps → ∀ {s s' m m'}, same s s' → h.control.Alike m m' →
      (step s m).Alike h.control same (step s' m'))
    (hsize : ∀ {step}, step ∈ steps → ∀ s m, (step s m).memory.size = m.size) :
    Paired (Twin h same contents contents') (runStart h steps x) (runStart h steps y) ∧
      startHistory h steps x = startHistory h steps y := by
  induction steps generalizing x y with
  | nil => exact ⟨.ok htwin, rfl⟩
  | cons step steps ih =>
    obtain ⟨hperform, hcalled⟩ := htwin.perform hg
      (halike (List.mem_cons_self ..) htwin.synced.guest htwin.synced.memory) (hsize (List.mem_cons_self ..))
    simp only [Session.runStart, startHistory, hcalled, bind, EStateM.bind]
    generalize Session.perform h (serveDetached h) step x = rx at hperform ⊢
    generalize Session.perform h (serveDetached h) step y = ry at hperform ⊢
    cases hperform with
    | error hafter => exact ⟨.error hafter, rfl⟩
    | @ok turn s t hafter =>
      cases turn with
      | host => exact ⟨.ok hafter, rfl⟩
      | guest =>
        obtain ⟨hrest, hhistory⟩ := ih hafter (fun hmem => halike (List.mem_cons_of_mem _ hmem))
          (fun hmem => hsize (List.mem_cons_of_mem _ hmem))
        exact ⟨hrest, congrArg (called h (serveDetached h) step y ++ ·) hhistory⟩

/-! ## Before the main function -/

/-- The session in which a start function is run, if the engine suits the host and its data
fits. -/
def seated? (h : Host σ) (e : Engine σ) (pages : Nat) (image : ByteArray) (desk : Desk) (asked : Array String) :
    Option (Session σ) :=
  if e.minPages ≤ pages && pages ≤ e.maxPages && e.isLinked && (e.start.isEmpty || h.canCall e.startCallsOn) then
    (overlay e.data (seeded (pages * Config.pageSize) image)).map fun memory =>
      { guest := e.initial, memory, desk, suspension := .initial, asked }
  else none

theorem start_eq (h : Host σ) (e : Engine σ) (pages : Nat) (image : ByteArray) (desk : Desk) (asked : Array String) :
    start h e pages image desk asked =
      match seated? h e pages image desk asked with
      | none => (.error .instantiation,
          { guest := e.initial, memory := .zeroed 0, desk, suspension := .initial, asked })
      | some s =>
        match runStart h e.start s with
        | .error _ s => (.error .instantiation, s)
        | .ok () s =>
          match firstMissing e with
          | some x => (.error (.missing x), s)
          | none => (.ok (), { s with guest := e.ready s.guest }) := by
  simp only [start, seated?]
  generalize (decide (e.minPages ≤ pages) && decide (pages ≤ e.maxPages) && e.isLinked) = fits
  generalize (e.start.isEmpty || h.canCall e.startCallsOn) = canStart
  cases fits with
  | false => rfl
  | true =>
    cases canStart with
    | false => rfl
    | true =>
      cases overlay e.data (seeded (pages * Config.pageSize) image) with
      | none => rfl
      | some memory =>
        simp only [Option.map_some, Bool.and_self, Bool.not_true, if_true]
        cases runStart h e.start _ with
        | error cause s => rfl
        | ok u s => rfl

theorem size_seeded (size : Nat) (image : ByteArray) : (seeded size image).size = size := by
  have hextract : (image.extract 0 size).size ≤ size := by
    rw [ByteArray.size_extract]
    omega
  rw [seeded, Memory.size, ByteArray.size_append, size_zeros]
  omega

theorem size_overlay {pieces : List (Nat × ByteArray)} {m m' : Memory} (hm : overlay pieces m = some m') :
    m'.size = m.size := by
  induction pieces generalizing m with
  | nil =>
    cases hm
    rfl
  | cons piece more ih =>
    rw [overlay] at hm
    split at hm
    next hwrite => exact (ih hm).trans (Memory.size_of_write hwrite)
    next => cases hm

variable {e : Engine σ} {pages : Nat} {image : ByteArray} {d : Desk} {asked : Array String}

/-- The history of setting up a session. -/
def setupHistory (h : Host σ) (e : Engine σ) (pages : Nat) (image : ByteArray) (desk : Desk) (asked : Array String) :
    List Happening :=
  match seated? h e pages image desk asked with
  | some s => startHistory h e.start s
  | none => []

theorem twin_seated (he : e.Resumable h.control same) (hroom : h.control.start + 8 ≤ pages * Config.pageSize)
    {s : Session σ} (hs : seated? h e pages image d asked = some s) (contents : Std.HashMap String ByteArray) :
    ∃ s', seated? h e pages image (d.withContents contents) asked = some s' ∧
      Twin h same d.contents contents s s' := by
  simp only [seated?] at hs ⊢
  split at hs
  next hfits =>
    obtain ⟨memory, hmemory, rfl⟩ := Option.map_eq_some_iff.mp hs
    have hsize : h.control.start + 8 ≤ memory.size := by
      rwa [size_overlay hmemory, size_seeded]
    rw [if_pos hfits, hmemory]
    exact ⟨_, rfl, ⟨he.initial, .refl _ _, rfl, ⟨rfl, rfl, hsize⟩, ⟨rfl, rfl, hsize⟩⟩, rfl, rfl⟩
  next => cases hs

theorem seated?_withContents_eq_none (hs : seated? h e pages image d asked = none)
    (contents : Std.HashMap String ByteArray) :
    seated? h e pages image (d.withContents contents) asked = none := by
  simp only [seated?] at hs ⊢
  split at hs
  next hfits =>
    rw [if_pos hfits]
    exact Option.map_eq_none_iff.mpr (Option.map_eq_none_iff.mp hs)
  next hfits => rw [if_neg hfits]

/-- **Setting up does not depend on the stored files.** -/
theorem paired_start (he : e.Resumable h.control same) (hguest : h.guest = e.guest)
    (hroom : h.control.start + 8 ≤ pages * Config.pageSize) (image : ByteArray) (d : Desk) (asked : Array String)
    (contents : Std.HashMap String ByteArray) :
    setupHistory h e pages image (d.withContents contents) asked = setupHistory h e pages image d asked ∧
      ∃ r s s', start h e pages image d asked = (r, s) ∧
        start h e pages image (d.withContents contents) asked = (r, s') ∧
        (r = .ok () → Twin h same d.contents contents s s') ∧ (s.desk.console = s'.desk.console) := by
  rw [start_eq, start_eq, setupHistory, setupHistory]
  cases hs : seated? h e pages image d asked with
  | none =>
    rw [seated?_withContents_eq_none hs]
    exact ⟨rfl, _, _, _, rfl, rfl, nofun, rfl⟩
  | some s =>
    obtain ⟨s', hs', htwin⟩ := twin_seated he hroom hs contents
    -- the start functions run alike, and which exports are missing depends on the engine alone
    obtain ⟨hpaired, hhistory⟩ := htwin.runStart (hguest ▸ he.guest) he.start he.startSize
    rw [hs']
    dsimp only
    generalize runStart h e.start s = rx at hpaired ⊢
    generalize runStart h e.start s' = ry at hpaired ⊢
    cases hpaired with
    | @error cause x y hafter =>
      refine ⟨hhistory.symm, _, _, _, rfl, rfl, nofun, ?_⟩
      rw [hafter.synced.desk]
      rfl
    | @ok u x y hafter =>
      have hconsole : x.desk.console = y.desk.console := by
        rw [hafter.synced.desk]
        rfl
      dsimp only
      cases firstMissing e with
      | some missing => exact ⟨hhistory.symm, _, _, _, rfl, rfl, nofun, hconsole⟩
      | none =>
        have hsync := hafter.synced.withGuests (he.ready hafter.synced.guest)
        exact ⟨hhistory.symm, _, _, _, rfl, rfl, fun _ => ⟨hsync, hafter.first, hafter.second⟩, hconsole⟩

/-! ## From the main function to the end -/

/-- The history of a run of the main function. -/
def runHistory (h : Host σ) (budget : Nat) (s : Session σ) : List Happening :=
  match enter h .main s with
  | .ok () s => history h budget .guest s
  | .error _ _ => []

theorem enter_main (h : Host σ) (s : Session σ) (hcan : h.canCall (h.guest.callsOn .main)) :
    enter h .main s =
      match h.guest.enter .main s.guest with
      | .ok guest => .ok () { s with guest }
      | .error cause => .error (.trap cause) s := by
  cases hguest : h.guest.enter .main s.guest <;> simp only [enter, Entry.toExport, hcan, if_true, hguest]

theorem enter_main_of_cannot (h : Host σ) (s : Session σ) (hcan : ¬ h.canCall (h.guest.callsOn .main)) :
    enter h .main s = .error (.trap .stackExhausted) s := by
  simp only [enter, Entry.toExport, hcan]
  rfl

theorem run_eq (h : Host σ) (budget : Nat) (s : Session σ) : run h budget s =
    match enter h .main s with
    | .ok () s => runTurns h budget .guest s
    | .error cause s => .error cause s := by
  simp only [run, bind, EStateM.bind]
  cases enter h .main s <;> rfl

/-- **The run with its files follows the run that has to fetch them.** -/
theorem follows_run (hg : h.guest.Resumable h.control same) (hdiscreet : h.guest.Discreet h.control same)
    (hsync : Synced h same x y) {budget : Nat} (hahead : Ahead (runHistory h budget x) x.desk y.desk) :
    Follows (runHistory h budget x) (run h budget x) (runHistory h budget y) (run h budget y) := by
  rw [run_eq, run_eq]
  rw [runHistory] at hahead ⊢
  rw [runHistory]
  by_cases hcan : h.canCall (h.guest.callsOn .main)
  · have hentered := hg.main hsync.guest
    rw [enter_main h x hcan] at hahead ⊢
    rw [enter_main h y hcan]
    generalize h.guest.enter .main x.guest = rx at hentered hahead ⊢
    generalize h.guest.enter .main y.guest = ry at hentered ⊢
    cases hentered with
    | error cause => exact ⟨List.prefix_rfl, fun _ => ⟨rfl, .error hsync.desk⟩⟩
    | ok hsame =>
      exact matched ⟨hg, hdiscreet, hcan⟩ budget budget .guest _ _ (Nat.le_refl _) (hsync.withGuests hsame) hahead
  · rw [enter_main_of_cannot h x hcan, enter_main_of_cannot h y hcan]
    exact ⟨List.prefix_rfl, fun _ => ⟨rfl, .error hsync.desk⟩⟩

/-- What is known when the run starts is not missed. -/
theorem not_missed_of_knows {name : String} (hknows : x.desk.Knows name) (hruns : Runs h x) (budget : Nat) :
    .missed name ∉ runHistory h budget x := by
  rw [runHistory]
  split
  next s hs =>
    obtain ⟨guest, rfl⟩ := enter_cases hs
    have hother : x.suspension.pending ≠ some name := by simp [hruns.pending]
    exact (not_mem_history_of_knows (s := { x with guest }) hknows hother budget .guest).1
  next => exact List.not_mem_nil

theorem content_of_mem_runHistory {name : String} {content : ByteArray} {budget : Nat} (hruns : Runs h x)
    (hmem : .fetched name content ∈ runHistory h budget x) : h.loader.content? name = some content := by
  rw [runHistory] at hmem
  split at hmem
  next s hs =>
    obtain ⟨guest, rfl⟩ := enter_cases hs
    refine content_of_mem_history (fun name hname => ?_) hmem
    rw [show _ = none from hruns.pending] at hname
    cases hname
  next => cases hmem

/-- While a guest starts nothing is missed and nothing fetched. -/
theorem isCompleted_of_mem_startHistory {steps : List (σ → Memory → Action σ)} {happening : Happening}
    (hmem : happening ∈ startHistory h steps x) : happening.isCompleted = true := by
  induction steps generalizing x with
  | nil => cases hmem
  | cons step steps ih =>
    rw [startHistory, List.mem_append] at hmem
    rcases hmem with hmem | hmem
    · simp only [called] at hmem
      split at hmem
      next call hcall =>
        have hserve := paired_serveDetached (h := h) (abreast_self h.control (x.stepped step)) call
        generalize serveDetached h call (x.stepped step) = r at hserve hmem
        cases hserve with
        | error hafter => cases hmem
        | ok hafter =>
          have hcount : _ = (x.stepped step).suspension.count := congrArg (·.suspension.count) hafter.first
          rw [reported_of_completed hcount, List.mem_singleton] at hmem
          rw [hmem]
          rfl
      next => cases hmem
    · split at hmem
      · exact ih hmem
      · cases hmem

end Galley.Session
