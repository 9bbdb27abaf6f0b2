import Galley.Proofs.Loader.Asking
import Galley.Proofs.Session.Log
import Galley.Proofs.Session.Setup
import Galley.Proofs.Session.Sparing

/-! # What a session asks the store for

A guest asks for nothing itself: what it computes, and what its calls do, leaves the names asked
for as they are (`Session.unasking_perform`).  Only the host asks, for the name that the guest
waits for, and the guest waits for a name that it has missed.  So after a run, whichever way it
ends, all that was asked for is where the files may be stored that were missed
(`Session.accounts_runTurns`), and the handovers of its log lead from the names asked for at
first to those asked for in the end, one after the other (`Session.chained_runTurns`). -/
namespace Galley

variable {σ α β : Type}

/-- The handovers of a log lead from the names asked for `first` to those asked for `last`: each
finds what the one before it has left, and leaves that with what the loader asks for to fetch
the name.  Nothing is asked for in between. -/
def Chained (loader : Loader) : Array String → List Notice → Array String → Prop
  | first, [], last => last = first
  | first, .handed x :: later, last =>
    x.asked = first ∧ x.askedAfter = Loader.askedAfter (loader.fetchOptional x.name first) ∧
      Chained loader x.askedAfter later last
  | first, _ :: later, last => Chained loader first later last

namespace Chained

variable {loader : Loader} {first between last : Array String} {l l' : List Notice}

theorem append (h : Chained loader first l between) (h' : Chained loader between l' last) :
    Chained loader first (l ++ l') last := by
  induction l generalizing first with
  | nil =>
    cases h
    exact h'
  | cons n l ih =>
    cases n with
    | handed x => exact ⟨h.1, h.2.1, ih h.2.2⟩
    | returned call phase d => exact ih h
    | missed name d => exact ih h

/-- Without a handover nothing is asked for. -/
theorem of_not_handed (hl : ∀ n ∈ l, n.isHanded = false) : Chained loader first l first := by
  induction l with
  | nil => rfl
  | cons n l ih =>
    have hrest := ih fun m hm => hl m (List.mem_cons_of_mem n hm)
    cases n with
    | handed x => cases hl _ List.mem_cons_self
    | returned call phase d => exact hrest
    | missed name d => exact hrest

end Chained

namespace Session
open Serving

variable {h : Host σ} {s s' : Session σ} {asked : Array String}

/-! ## Actions that ask for nothing -/

/-- Whether it succeeds or fails, the action leaves these names asked for. -/
abbrev Unasking (asked : Array String) (r : EStateM.Result Stop (Session σ) α) : Prop := Spares (·.asked) asked r

theorem aside_asked : Aside fun s : Session σ => s.asked := ⟨fun _ _ _ _ => rfl, fun _ _ => rfl⟩

theorem unasking_onSeat (hs : s.asked = asked) (op : Desk.Operation α) : Unasking asked (onSeat op s) := by
  simp only [onSeat]
  split <;> exact hs

theorem unasking_onDesk (hs : s.asked = asked) (change : Desk → Except FileFailure Desk) :
    Unasking asked (onDesk change s) := by
  simp only [onDesk]
  split <;> exact hs

/-- **A call asks for nothing.** -/
theorem unasking_serve (hs : s.asked = asked) (call : Call Int32) : Unasking asked (serve h call s) := by
  have hprint {s : Session σ} (hs : s.asked = asked) (handle : Int32) (data : ByteArray) :
      Unasking asked ((do print handle data; pure none : Serving σ (Option Int32)) s) :=
    (unasking_onDesk hs _).bind fun _ t ht => ht
  cases call with
  | reset length pointer => exact (spares_openNamed aside_asked hs _ _ _).map _
  | rewrite length pointer => exact (spares_openNamed aside_asked hs _ _ _).map _
  | close handle => exact (spares_query hs _).bind fun _ t ht => ht
  | atEnd handle => exact (spares_query hs _).map _
  | atLineEnd handle => exact (spares_query hs _).map _
  | status handle => exact (spares_query hs _).map _
  | get handle pointer length => exact (unasking_onSeat hs _).bind fun _ t ht => ht
  | put handle pointer length => exact (unasking_onDesk hs (·.put s.memory handle _ _)).bind fun _ t ht => ht
  | inputLine handle bypass buffer first last reserve capacity => exact (unasking_onSeat hs _).bind fun _ t ht => ht
  | printString handle pointer => exact (spares_look hs _).bind fun text t ht => hprint ht handle text
  | printChar handle char => exact hprint hs handle _
  | printInteger handle value => exact hprint hs handle _
  | printReal handle bits => exact hprint hs handle _
  | printBoolean handle value => exact hprint hs handle _
  | printNewline handle => exact hprint hs handle _
  | minutes | day | month | year => exact hs
  | finalEnd => exact (unasking_onDesk hs _).bind fun _ t ht => ht

theorem unasking_perform (hs : s.asked = asked) {answer : Call Int32 → Serving σ (Option Int32)}
    (hanswer : ∀ {s : Session σ} (call : Call Int32), s.asked = asked → Unasking asked (answer call s))
    (h : Host σ) (step : σ → Memory → Action σ) : Unasking asked (perform h answer step s) := by
  rw [perform_eq]
  cases (step s.guest s.memory).move with
  | goOn | leave | trap | spin => exact hs
  | call call =>
    have hcall := hanswer (s := s.stepped step) call hs
    dsimp only
    generalize answer call (s.stepped step) = r at hcall ⊢
    cases r with
    | error e t => exact hcall
    | ok result t =>
      rw [answered]
      cases h.guest.resume t.guest result <;> exact hcall

theorem unasking_runStart (hs : s.asked = asked) (steps : List (σ → Memory → Action σ)) :
    Unasking asked (runStart h steps s) := by
  have hdetached {s : Session σ} (call : Call Int32) (hs : s.asked = asked) :
      Unasking asked (serveDetached h call s) := by
    rw [serveDetached]
    split
    · exact hs
    · exact unasking_serve hs call
  induction steps generalizing s with
  | nil => exact hs
  | cons step steps ih =>
    refine (unasking_perform hs hdetached h step).bind fun turn t ht => ?_
    cases turn with
    | guest => exact ih ht
    | host => exact ht

/-- Setting up a session asks for nothing. -/
theorem asked_start (h : Host σ) (e : Engine σ) (pages : Nat) (image : ByteArray) (desk : Desk) (asked : Array String) :
    (start h e pages image desk asked).2.asked = asked := by
  rw [start_eq]
  cases hseated : seated? h e pages image desk asked with
  | none => rfl
  | some first =>
    have hfirst : first.asked = asked := by
      rw [seated?] at hseated
      split at hseated
      · obtain ⟨memory, -, rfl⟩ := Option.map_eq_some_iff.mp hseated
        rfl
      · cases hseated
    have hrun := unasking_runStart (h := h) hfirst e.start
    dsimp only
    cases hs : runStart h e.start first with
    | error cause s => rwa [hs] at hrun
    | ok u s =>
      rw [hs] at hrun
      dsimp only
      split <;> exact hrun

/-! ## Turns -/

/-- Since `s` the store has been asked at most for the file that the guest waits for. -/
def Asks (h : Host σ) (s t : Session σ) : Prop :=
  t.asked = s.asked ∨ ∃ name, s.suspension.pending = some name ∧
    t.asked = Loader.askedAfter (h.loader.fetchOptional name s.asked)

theorem Settles.asks {t : Session σ} (ht : Settles h s t) : Asks h s t := by
  cases ht with
  | kept => exact Or.inl rfl
  | supplied name _ _ hpending => exact Or.inr ⟨name, hpending, rfl⟩

/-- A turn of the guest asks for nothing, whether it succeeds or fails. -/
theorem asked_takeTurn_guest (h : Host σ) (s : Session σ) : (left (takeTurn h .guest s)).asked = s.asked := by
  have hperform := unasking_perform (s := s) rfl (fun call hs => unasking_serve (h := h) hs call) h h.guest.step
  rw [takeTurn_guest]
  generalize perform h (serve h) h.guest.step s = r at hperform ⊢
  cases r <;> exact hperform

/-- **A turn asks at most for the file that the guest waits for.** -/
theorem asks_takeTurn (h : Host σ) (turn : Turn) (s : Session σ) : Asks h s (left (takeTurn h turn s)) := by
  cases turn with
  | guest => exact Or.inl (asked_takeTurn_guest h s)
  | host =>
    rw [left_takeTurn_host]
    exact (settles h s).asks

/-- The guest hands nothing over. -/
theorem not_handed_of_guest : ∀ n ∈ notices h .guest s, n.isHanded = false := by
  simp only [notices]
  cases (h.guest.step s.guest s.memory).move with
  | call call =>
    dsimp only
    cases serve h call (s.stepped h.guest.step) with
    | error e t => exact List.forall_mem_nil _
    | ok result t =>
      rw [noticed]
      split
      · exact List.forall_mem_singleton.mpr rfl
      · exact List.forall_mem_map.mpr fun _ _ => rfl
  | goOn | leave | trap | spin => exact List.forall_mem_nil _

theorem Settles.chained {t : Session σ} (ht : Settles h s t) :
    Chained h.loader s.asked (handedOver s t) t.asked := by
  cases ht with
  | kept guest =>
    rw [handedOver_of_kept]
    rfl
  | supplied name guest hphase hpending =>
    rw [(handedOver_of_supplied (h := h) hphase hpending guest).1]
    exact ⟨rfl, rfl, rfl⟩

/-- **The notices of a turn account for what it asks for**, whichever way it ends. -/
theorem chained_takeTurn (h : Host σ) (turn : Turn) (s : Session σ) :
    Chained h.loader s.asked (notices h turn s) (left (takeTurn h turn s)).asked := by
  cases turn with
  | guest =>
    rw [asked_takeTurn_guest]
    exact .of_not_handed not_handed_of_guest
  | host =>
    rw [notices, left_takeTurn_host]
    exact (settles h s).chained

/-! ## Along a run -/

/-- **The log of a run accounts for what it asks for**, handover by handover. -/
theorem chained_runTurns (h : Host σ) (budget : Nat) (turn : Turn) (s : Session σ) :
    Chained h.loader s.asked (log h budget turn s) (left (runTurns h budget turn s)).asked := by
  induction budget generalizing turn s with
  | zero => rfl
  | succ budget ih =>
    have hturn := chained_takeTurn h turn s
    rw [runTurns_succ, log]
    cases hs : takeTurn h turn s with
    | error e t =>
      rw [hs] at hturn
      rwa [List.append_nil]
    | ok next t =>
      rw [hs] at hturn
      cases next with
      | none => rwa [List.append_nil]
      | some turn' => exact hturn.append (ih turn' t)

/-- A name that was asked for first, or that may be the place of a file that was missed. -/
def AskedFor (h : Host σ) (first : Array String) (l : List Notice) (a : String) : Prop :=
  a ∈ first ∨ ∃ name d, .missed name d ∈ l ∧ a ∈ h.loader.filePlaces name

/-- A log accounts for the names asked for, and for the one that the guest waits for. -/
structure Accounts (h : Host σ) (first : Array String) (l : List Notice) (s : Session σ) : Prop where
  asked : ∀ a ∈ s.asked, AskedFor h first l a
  pending : ∀ {name}, s.suspension.pending = some name → ∃ d, .missed name d ∈ l

variable {turn turn' : Turn} {l l' : List Notice} {first : Array String}

theorem AskedFor.append {a : String} (ha : AskedFor h first l a) (l' : List Notice) : AskedFor h first (l ++ l') a :=
  ha.imp_right fun ⟨name, d, hmem, hplace⟩ => ⟨name, d, List.mem_append_left l' hmem, hplace⟩

theorem Accounts.start (hsuspension : s.suspension = .initial) : Accounts h s.asked [] s where
  asked _ hmem := Or.inl hmem
  pending hname := by
    rw [hsuspension] at hname
    cases hname

/-- Whichever way a turn ends, what it asks for was missed before. -/
theorem Accounts.asked_takeTurn (hs : Accounts h first l s) (turn : Turn) :
    ∀ a ∈ (left (takeTurn h turn s)).asked, AskedFor h first l a := by
  intro a hmem
  rcases asks_takeTurn h turn s with hasked | ⟨name, hname, hasked⟩
  · rw [hasked] at hmem
    exact hs.asked a hmem
  · rw [hasked] at hmem
    rcases h.loader.asksOnly_fetchOptional name s.asked a hmem with hbefore | hplace
    · exact hs.asked a hbefore
    · obtain ⟨d, hmissed⟩ := hs.pending hname
      exact Or.inr ⟨name, d, hmissed, hplace⟩

/-- **Every turn keeps the account.** -/
theorem Accounts.takeTurn (hs : Accounts h first l s) (hturn : takeTurn h turn s = .ok (some turn') s') :
    Accounts h first (l ++ notices h turn s) s' where
  asked a hmem := by
    have hasked := hs.asked_takeTurn turn a
    rw [hturn] at hasked
    exact (hasked hmem).append _
  pending {name} hname := by
    have hturned := turned_of_takeTurn hturn
    generalize notices h turn s = l' at hturned ⊢
    have hkept (hbefore : s.suspension.pending = some name) : ∃ d, .missed name d ∈ l ++ l' :=
      (hs.pending hbefore).imp fun _ hmem => List.mem_append_left l' hmem
    cases hturned with
    | quiet | called | opened | woken => exact hkept hname
    | missed name' =>
      obtain rfl := Option.some.inj hname
      exact ⟨s.desk, List.mem_append_right l (List.mem_singleton_self _)⟩
    | handed => cases hname

/-- **The log of a run accounts for all that it asks for**, whichever way it ends. -/
theorem accounts_runTurns (hs : Accounts h first l s) (budget : Nat) (turn : Turn) :
    ∀ a ∈ (left (runTurns h budget turn s)).asked, AskedFor h first (l ++ log h budget turn s) a := by
  induction budget generalizing l turn s with
  | zero => exact fun a hmem => (hs.asked a hmem).append _
  | succ budget ih =>
    rw [runTurns_succ]
    have hends := hs.asked_takeTurn turn
    cases hturn : Session.takeTurn h turn s with
    | error e t =>
      rw [hturn] at hends
      exact fun a hmem => (hends a hmem).append _
    | ok next t =>
      cases next with
      | none =>
        rw [hturn] at hends
        exact fun a hmem => (hends a hmem).append _
      | some turn' =>
        rw [log_succ_of_turn hturn, ← List.append_assoc]
        exact ih (hs.takeTurn hturn) turn'

end Session
end Galley
