import Galley.Proofs.Session.Asking
import Galley.Proofs.Typesetter.Fetching

/-! # What typesetting asks the store for

Typesetting a request asks the store for the manifests of the bundles that the request names,
for the members that these manifests name, and for the files that the guest misses.  Every name
that the store sees is one of the places of one of them, however the typesetting ends
(`Typesetter.sought_of_asked`). -/
namespace Galley.Typesetter
open Loader Session

variable {σ : Type} {t : Typesetter σ} {r : Request}

/-- In typesetting a request the name is sought in this place. -/
inductive Sought (t : Typesetter σ) (r : Request) : (name place : String) → Prop where
  /-- The request names the bundle. -/
  | bundle {kind : BundleKind} {name place : String} (hbundle : (kind, name) ∈ r.options.bundles)
      (hplace : place ∈ t.loader.manifestPlaces kind name) : Sought t r name place
  /-- The manifest of a bundle that the request names has the name. -/
  | member {kind : BundleKind} {bundle name place : String} (hbundle : (kind, bundle) ∈ r.options.bundles)
      (hmember : t.loader.IsMember kind bundle name) (hplace : place ∈ t.loader.filePlaces name) :
      Sought t r name place
  /-- The guest has opened the name and missed it. -/
  | missed {name place : String} {d : Desk} (hmissed : .missed name d ∈ t.log r)
      (hplace : place ∈ t.loader.filePlaces name) : Sought t r name place

/-- A place of the manifest of one of the bundles, or of one of their members. -/
def OfBundles (t : Typesetter σ) (bundles : List (BundleKind × String)) (place : String) : Prop :=
  ∃ kind bundle, (kind, bundle) ∈ bundles ∧ t.loader.OfBundle kind bundle place

theorem OfBundles.sought {place : String} (h : t.OfBundles r.options.bundles place) :
    ∃ name, t.Sought r name place := by
  obtain ⟨kind, bundle, hbundle, hmanifest | ⟨name, hmember, hfile⟩⟩ := h
  · exact ⟨bundle, .bundle hbundle hmanifest⟩
  · exact ⟨name, .member hbundle hmember hfile⟩

theorem asksOnly_preload (t : Typesetter σ) (bundles : List (BundleKind × String)) (d : Desk) (asked : Array String) :
    AsksOnly (t.OfBundles bundles) asked (t.preload bundles d asked) := by
  induction bundles generalizing d asked with
  | nil => exact .pure d asked
  | cons bundle bundles ih =>
    obtain ⟨kind, name⟩ := bundle
    have hfirst := (t.loader.asksOnly_fetchBundle kind name asked).mono fun a ha =>
      (⟨kind, name, List.mem_cons_self, ha⟩ : t.OfBundles ((kind, name) :: bundles) a)
    refine .bind hfirst fun files asked _ => ?_
    refine (ih _ asked).mono fun a ha => ?_
    obtain ⟨kind', name', hmem, hplace⟩ := ha
    exact ⟨kind', name', List.mem_cons_of_mem _ hmem, hplace⟩

theorem asksOnly_setOut (t : Typesetter σ) (r : Request) (asked : Array String) :
    AsksOnly (t.OfBundles r.options.bundles) asked (t.setOut r asked) :=
  .bind (t.asksOnly_preload _ _ asked) fun _ asked _ => .pure _ asked

/-- A run that starts with nothing outstanding asks for the places of what it misses. -/
theorem askedFor_of_run {h : Host σ} {s : Session σ} (hs : s.suspension = .initial) (budget : Nat) :
    ∀ a ∈ (left (run h budget s)).asked, AskedFor h s.asked (runLog h budget s) a := by
  have henters : Unasking s.asked (Serving.enter h .main s) := spares_enter aside_asked rfl .main
  rw [run_eq, runLog]
  cases henter : Serving.enter h .main s with
  | error e u =>
    rw [henter] at henters
    intro a hmem
    exact Or.inl (henters ▸ hmem)
  | ok _ u =>
    obtain ⟨guest, rfl⟩ := Serving.enter_cases henter
    exact accounts_runTurns (.start (s := { s with guest }) hs) budget .guest

/-- **All that the store is asked for is sought there.** -/
theorem sought_of_asked (t : Typesetter σ) (r : Request) : ∀ a ∈ (t.typeset r).2.asked, ∃ name, t.Sought r name a := by
  intro a hmem
  have hsetOut := t.asksOnly_setOut r #[] a
  cases hdesk : t.setOut r #[] with
  | error e asked =>
    simp only [typeset, hdesk] at hmem
    rw [hdesk] at hsetOut
    exact ((hsetOut hmem).resolve_left (Array.not_mem_empty a)).sought
  | ok desk asked =>
    rw [hdesk] at hsetOut
    have hpreloaded (ha : a ∈ asked) : ∃ name, t.Sought r name a :=
      ((hsetOut ha).resolve_left (Array.not_mem_empty a)).sought
    have hasked := asked_start t.host t.engine t.config.memoryPages t.image desk asked
    rcases hstart : Session.start t.host t.engine t.config.memoryPages t.image desk asked with ⟨e | u, s⟩
    · rw [hstart] at hasked
      simp only [typeset, hdesk, hstart] at hmem
      exact hpreloaded (hasked ▸ hmem)
    · rw [hstart] at hasked
      have hlog : t.log r = runLog t.host t.budget s := by simp only [log, hdesk, hstart]
      have hrun : a ∈ (left (Session.run t.host t.budget s)).asked := by
        simp only [typeset, hdesk, hstart] at hmem
        cases hs : Session.run t.host t.budget s with
        | error cause s' => rwa [hs] at hmem
        | ok u s' => rwa [hs] at hmem
      rcases askedFor_of_run (suspension_of_start hstart) t.budget a hrun with hfirst | ⟨name, d, hmissed, hplace⟩
      · exact hpreloaded (hasked ▸ hfirst)
      · exact ⟨name, .missed (hlog ▸ hmissed) hplace⟩

end Galley.Typesetter
