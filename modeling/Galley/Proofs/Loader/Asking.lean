import Galley.Proofs.Loader
import Galley.Proofs.Typesetter.Preloading

/-! # What a load asks the store for

A single file may be stored in the places `Loader.filePlaces`, and the manifest of a bundle in
`Loader.manifestPlaces`.  Whether it succeeds or fails, a load asks for no other names: a
bundle for its manifest, and for the members that the manifest names
(`Loader.asksOnly_fetchBundle`). -/
namespace Galley

/-- What a load comes to that succeeds. -/
theorem Loading.Yields.eq_some {α : Type} {load : Loading α} {asked asked' : Array String} {a? : Option α} {a : α}
    (h : load.Yields asked a?) (hload : load asked = .ok a asked') : a? = some a := by
  cases a? with
  | some b =>
    obtain ⟨_, hb⟩ := h
    cases hb.symm.trans hload
    rfl
  | none =>
    obtain ⟨_, _, he⟩ := h
    cases he.symm.trans hload

namespace Loader

/-- Where a single file may be stored: under its own name, and under its older name if it has one. -/
def filePlaces (l : Loader) (name : String) : List String :=
  l.filePath name :: (olderName? name).toList.map l.filePath

/-- Where the manifest of a bundle may be stored: as it is, and compressed. -/
def manifestPlaces (l : Loader) (kind : BundleKind) (name : String) : List String :=
  let plain := l.directory kind ++ "/" ++ name ++ ".json"
  [plain, plain ++ ".gz"]

variable {α β : Type} {P : String → Prop} {asked : Array String} {load : Loading α}

/-- The load has asked only for such names since these were asked for. -/
def AsksOnly (P : String → Prop) (asked : Array String) (r : EStateM.Result LoadError (Array String) α) : Prop :=
  ∀ a ∈ askedAfter r, a ∈ asked ∨ P a

namespace AsksOnly

theorem mono {Q : String → Prop} {r : EStateM.Result LoadError (Array String) α} (h : AsksOnly P asked r)
    (hPQ : ∀ a, P a → Q a) : AsksOnly Q asked r := fun a hmem => (h a hmem).imp_right (hPQ a)

theorem pure (a : α) (asked : Array String) : AsksOnly P asked ((Pure.pure a : Loading α) asked) :=
  fun _ hmem => Or.inl hmem

theorem throw (e : LoadError) (asked : Array String) : AsksOnly P asked ((throw e : Loading α) asked) :=
  fun _ hmem => Or.inl hmem

theorem bind {k : α → Loading β} (h : AsksOnly P asked (load asked))
    (hk : ∀ a asked', load asked = .ok a asked' → AsksOnly P asked' (k a asked')) :
    AsksOnly P asked ((load >>= k) asked) := by
  cases hload : load asked with
  | ok a asked' =>
    rw [hload] at h
    rw [bind_of_ok hload]
    intro name hmem
    rcases hk a asked' hload name hmem with hbefore | hnew
    · exact h name hbefore
    · exact Or.inr hnew
  | error e asked' =>
    rw [hload] at h
    rw [bind_of_error hload]
    exact h

theorem attempt (h : AsksOnly P asked (load asked)) : AsksOnly P asked (load.attempt asked) := by
  rw [Loading.attempt]
  cases hload : load asked with
  | ok a asked' => rwa [hload] at h
  | error e asked' => rwa [hload] at h

end AsksOnly

variable (l : Loader)

/-! ## Single files -/

theorem asksOnly_fetch (name : String) (asked : Array String) : AsksOnly (· = name) asked (l.fetch name asked) := by
  have hasked : askedAfter (l.fetch name asked) = asked.push name := by
    rw [fetch]
    cases l.store name with
    | ok bytes => rfl
    | error e => cases e <;> rfl
  intro a hmem
  rw [hasked] at hmem
  exact Array.mem_push.mp hmem

theorem asksOnly_inflate (name : String) (bytes : ByteArray) (asked : Array String) :
    AsksOnly P asked (inflate name bytes asked) := by
  rw [inflate]
  cases Gzip.decompress? bytes with
  | some data => exact .pure data asked
  | none => exact .throw _ asked

theorem asksOnly_fetchInflated (name : String) (asked : Array String) :
    AsksOnly (· = name) asked (l.fetchInflated name asked) :=
  .bind (l.asksOnly_fetch name asked) fun bytes asked _ => asksOnly_inflate name bytes asked

theorem asksOnly_fetchFile (name : String) (asked : Array String) :
    AsksOnly (· ∈ l.filePlaces name) asked (l.fetchFile name asked) := by
  intro a hmem
  rw [filePlaces]
  rcases l.askedAfter_fetchFile name asked with hone | ⟨older, holder, htwo⟩
  · rw [hone, Array.mem_push] at hmem
    exact hmem.imp_right fun ha => List.mem_cons.mpr (Or.inl ha)
  · rw [htwo, Array.mem_push, Array.mem_push, or_assoc] at hmem
    rw [holder]
    exact hmem.imp_right fun ha => by simpa using ha

theorem asksOnly_fetchOptional (name : String) (asked : Array String) :
    AsksOnly (· ∈ l.filePlaces name) asked (l.fetchOptional name asked) := by
  rw [AsksOnly, askedAfter_fetchOptional]
  exact l.asksOnly_fetchFile name asked

/-- **A fetch for a waiting guest asks the store for two names at most:** for the first place of
the file, and perhaps for the second. -/
theorem exists_asked_of_fetchOptional (name : String) (asked : Array String) :
    ∃ names, askedAfter (l.fetchOptional name asked) = asked ++ names ∧ 0 < names.size ∧ names.size ≤ 2 ∧
      names.toList <+: l.filePlaces name := by
  rw [askedAfter_fetchOptional]
  rcases l.askedAfter_fetchFile name asked with hone | ⟨older, holder, htwo⟩
  · refine ⟨#[l.filePath name], hone.trans (Array.push_eq_append ..), Nat.one_pos, Nat.le_succ 1, ?_⟩
    exact List.prefix_append [l.filePath name] _
  · refine ⟨#[l.filePath name, l.filePath older], htwo.trans ?_, Nat.two_pos, Nat.le_refl 2, ?_⟩
    · rw [Array.push_eq_append, Array.push_eq_append, Array.append_assoc]
      rfl
    · rw [filePlaces, holder]
      exact List.prefix_refl _

theorem asksOnly_fetchMembers (names : List String) (asked : Array String) :
    AsksOnly (fun a => ∃ name ∈ names, a ∈ l.filePlaces name) asked (l.fetchMembers names asked) := by
  induction names generalizing asked with
  | nil => exact .pure [] asked
  | cons name names ih =>
    have hmore (asked : Array String) := (ih asked).mono fun a (h : ∃ name ∈ names, a ∈ l.filePlaces name) =>
      h.imp fun member hplace => And.imp_left (List.mem_cons_of_mem name) hplace
    have hfirst := (l.asksOnly_fetchFile name asked).attempt.mono fun a hplace =>
      (⟨name, List.mem_cons_self, hplace⟩ : ∃ member ∈ name :: names, a ∈ l.filePlaces member)
    refine .bind hfirst fun result asked _ => ?_
    cases result with
    | ok data => exact .bind (hmore asked) fun files asked _ => .pure _ asked
    | error e => exact hmore asked

/-- The engine and its image are the only names that are no places of files or manifests. -/
theorem asksOnly_loadEngine (asked : Array String) :
    AsksOnly (· ∈ [l.layout.engine, l.layout.snapshot]) asked (l.loadEngine asked) := by
  refine .bind ((l.asksOnly_fetchInflated _ asked).mono fun a ha => by simp [ha]) fun engine asked _ => ?_
  refine .bind ((l.asksOnly_fetchInflated _ asked).mono fun a ha => by simp [ha]) fun image asked _ => ?_
  exact .pure _ asked

/-! ## Bundles -/

theorem asksOnly_fetchManifest (kind : BundleKind) (name : String) (asked : Array String) :
    AsksOnly (· ∈ l.manifestPlaces kind name) asked (l.fetchManifest kind name asked) := by
  rw [manifestPlaces]
  refine .bind ((l.asksOnly_fetch _ asked).attempt.mono fun a ha => by simp [ha]) fun result asked _ => ?_
  cases result with
  | ok bytes => exact .pure _ asked
  | error e =>
    cases e with
    | notFound missing =>
      exact .bind ((l.asksOnly_fetch _ asked).mono fun a ha => by simp [ha]) fun bytes asked _ => .pure _ asked
    | io | inflate | manifest => exact .throw _ asked

/-- A member of the bundle, as the manifest names it. -/
def IsMember (kind : BundleKind) (bundle name : String) : Prop :=
  ∃ names, l.manifest? kind bundle = some (.members names) ∧ name ∈ names

/-- A place of the manifest of the bundle, or of one of its members. -/
def OfBundle (kind : BundleKind) (bundle place : String) : Prop :=
  place ∈ l.manifestPlaces kind bundle ∨ ∃ name, l.IsMember kind bundle name ∧ place ∈ l.filePlaces name

/-- What a bundle is loaded as from what is read as its manifest. -/
def ofManifest (manifestName : String) : Option Manifest → Loading (List (String × ByteArray))
  | none => throw (.manifest manifestName)
  | some (.inline files) => pure (files.map fun (file, content) => (file, content.toUTF8))
  | some (.members names) => l.fetchMembers (Manifest.members names).names

theorem asksOnly_ofManifest {kind : BundleKind} {bundle manifestName : String} {manifest? : Option Manifest}
    (h : l.manifest? kind bundle = manifest?) (asked : Array String) :
    AsksOnly (l.OfBundle kind bundle) asked (l.ofManifest manifestName manifest? asked) := by
  cases manifest? with
  | none => exact .throw _ asked
  | some manifest =>
    cases manifest with
    | inline files => exact .pure _ asked
    | members names =>
      refine (l.asksOnly_fetchMembers _ asked).mono fun a ha => Or.inr ?_
      obtain ⟨name, hmem, hfile⟩ := ha
      exact ⟨name, ⟨names, h, (List.mem_filter.mp hmem).1⟩, hfile⟩

/-- **For a bundle its manifest is asked for, and its members.** -/
theorem asksOnly_fetchBundle (kind : BundleKind) (bundle : String) (asked : Array String) :
    AsksOnly (l.OfBundle kind bundle) asked (l.fetchBundle kind bundle asked) := by
  refine .bind ((l.asksOnly_fetchManifest kind bundle asked).mono fun a ha => Or.inl ha) fun stored asked' hstored => ?_
  obtain ⟨manifestName, stored⟩ := stored
  have hplace := (l.yields_fetchManifest kind bundle asked).eq_some hstored
  -- what is made of the text is the same whether it was compressed or not
  have hmanifest (text : ByteArray)
      (htext : (if Gzip.isMember stored then Gzip.decompress? stored else some stored) = some text) :
      l.manifest? kind bundle = (Json.ofBytes? text).bind Manifest.ofJson? := by
    rw [manifest?, hplace]
    change (if Gzip.isMember stored then Gzip.decompress? stored else some stored).bind _ = _
    rw [htext]
    rfl
  dsimp only
  split
  next hcompressed =>
    rw [if_pos hcompressed] at hmanifest
    refine .bind (asksOnly_inflate manifestName stored asked') fun text asked htext => ?_
    exact l.asksOnly_ofManifest (hmanifest text ((yields_inflate manifestName stored asked').eq_some htext)) asked
  next hplain =>
    rw [if_neg hplain] at hmanifest
    exact l.asksOnly_ofManifest (hmanifest stored rfl) asked'

end Loader
end Galley
