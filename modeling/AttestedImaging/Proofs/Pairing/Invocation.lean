import AttestedImaging.Proofs.Pairing.Attestation
import AttestedImaging.Proofs.Storage

/-!
# Invocations side by side

The checks look at lengths, and what is said of an invocation that went well is the digest. Everything
else that an invocation logs and reports is the same in both runs. What is kept in the storage differs,
and a limited storage takes or refuses both only if they come under the same names.
-/

namespace AttestedImaging

/-- Two stores that take or refuse alike. A limited store looks at the names that it has, so these must
be the same, and names to come as well. -/
structure ObjectStore.Alike (same : Prop) (s s' : ObjectStore) : Prop where
  capacity : s.capacity = s'.capacity
  names : s.capacity = none ∨ (same ∧ s.objects.keys = s'.objects.keys)

theorem ObjectStore.Alike.store {same : Prop} {s s' : ObjectStore} (h : Alike same s s')
    {id id' : String} (hid : same → id = id') (data data' : Bytes) :
    Agree (Alike same) (s.store id data) (s'.store id' data') := by
  have hrefuses : ∀ limit, s.Refuses id limit ↔ s'.Refuses id' limit := by
    intro limit
    rw [refuses_iff, refuses_iff, ← h.capacity]
    rcases h.names with hnone | ⟨hsame, hnames⟩
    · simp [hnone]
    · obtain rfl := hid hsame
      rw [get?, get?, Assoc.get?_eq_none_iff, Assoc.get?_eq_none_iff, ← length_keys, ← length_keys,
        hnames]
  by_cases hfull : ∃ limit, s.Refuses id limit
  · obtain ⟨limit, hlimit⟩ := hfull
    rw [store_of_refuses hlimit, store_of_refuses ((hrefuses limit).mp hlimit)]
    exact .error _
  · have htakes := not_exists.mp hfull
    rw [store_of_takes htakes, store_of_takes fun limit => mt (hrefuses limit).mpr (htakes limit)]
    refine .ok ⟨h.capacity, ?_⟩
    rcases h.names with hnone | ⟨hsame, hnames⟩
    · exact .inl hnone
    · obtain rfl := hid hsame
      exact .inr ⟨hsame, Assoc.keys_put_congr hnames id data data'⟩

def Parameters.image? (ps : Parameters) : Option Bytes :=
  match ps[0] with
  | .memrefInput image => some image
  | _ => none

namespace Pairing

open Invocation
open Grayscale (length_gray convert_of_whole)

variable {σ : Type} {P : Provider σ}

/-- Two storages that take or refuse alike whatever is to be kept. -/
inductive Storages (T : Pairing P) : Option Storage → Option Storage → Prop
  | missing : T.Storages none none
  | failing (text : String) : T.Storages (some (.failing text)) (some (.failing text))
  | memory {s s' : ObjectStore} (h : s.Alike T.same s') :
      T.Storages (some (.memory s)) (some (.memory s'))

structure Visits (T : Pairing P) (n : Nat) (v v' : Visit σ) : Prop where
  scene : T.Scenes n v.scene v'.scene
  parameters : v.parameters.blank = v'.parameters.blank
  storage : T.Storages v.storage v'.storage

variable {T : Pairing P} {n : Nat}

theorem Visits.log {v v' : Visit σ} (h : T.Visits n v v') {e e' : Event} (he : T.Events e e') :
    T.Visits n (v.log e) (v'.log e') := ⟨h.scene.log he, h.parameters, h.storage⟩

theorem Visits.fewer {v v' : Visit σ} (m : Nat) (h : T.Visits (n + m) v v') : T.Visits n v v' :=
  ⟨h.scene.fewer m, h.parameters, h.storage⟩

/-! ## Storing -/

/-- Names that differ are blanked, and those that are the same stay. -/
theorem events_named {id id' : String} (hid : T.same → id = id') :
    T.Events (.storageMissing id) (.storageMissing id') ∧ T.Events (.stored id) (.stored id') ∧
      ∀ e, T.Events (.storingFailed id e) (.storingFailed id' e) := by
  refine ⟨⟨by simp [Event.record, Event.Record.blank], fun h => by rw [hid h]⟩,
    ⟨by simp [Event.record, Event.Record.blank], fun h => by rw [hid h]⟩, fun e =>
    ⟨by simp [Event.record, Event.Record.blank], fun h => by rw [hid h]⟩⟩

theorem Visits.persist {v v' : Visit σ} (h : T.Visits n v v') {id id' : String}
    (hid : T.same → id = id') (bundle bundle' : Bytes) :
    T.Visits n (persist id bundle v) (persist id' bundle' v') := by
  obtain ⟨hmissing, hstored, hfailed⟩ := events_named (T := T) hid
  obtain ⟨scene, ps, storage⟩ := v
  obtain ⟨scene', ps', storage'⟩ := v'
  have hstorage : T.Storages storage storage' := h.storage
  cases hstorage with
  | missing => exact h.log hmissing
  | failing text => exact h.log (hfailed _)
  | @memory s s' hs =>
    have hstore := hs.store hid bundle bundle'
    simp only [Invocation.persist, Storage.store]
    generalize s.store id bundle = outcome at hstore ⊢
    generalize s'.store id' bundle' = outcome' at hstore ⊢
    cases hstore with
    | ok ht => exact ⟨h.scene.log hstored, h.parameters, .memory ht⟩
    | error e => exact h.log (hfailed e)

/-! ## Attesting and writing -/

/-- What may come of these two images side by side. -/
structure Outputs (T : Pairing P) (image image' : Bytes) (a a' : Attested) : Prop where
  digest : T.digests a.bundle.digest a'.bundle.digest
  gray : a.gray = Grayscale.gray image
  gray' : a'.gray = Grayscale.gray image'

theorem works_attestGray (policy : KeyPolicy) {image image' : Bytes} (hwhole : image.length % 3 = 0)
    (hwhole' : image'.length % 3 = 0)
    (h : T.images (Grayscale.gray image) (Grayscale.gray image')) :
    T.Works (T.Outputs image image') 1 (attestGray P policy image) (attestGray P policy image') := by
  unfold attestGray
  rw [convert_of_whole hwhole, convert_of_whole hwhole']
  refine (Works.pure (R := fun g g' => g = Grayscale.gray image ∧ g' = Grayscale.gray image')
    ⟨rfl, rfl⟩).bind fun g g' hg => ?_
  obtain ⟨rfl, rfl⟩ := hg
  refine (Works.log _).bind fun _ _ _ => ?_
  refine (Works.act fun _ _ _ hs => hs.clearResult).bind fun _ _ _ => ?_
  exact (works_attest policy h).bind_rest fun b b' hb => .pure ⟨hb, rfl, rfl⟩

theorem Scenes.retireKey {s s' : Scene σ} (h : T.Scenes n s s') (policy : KeyPolicy) :
    T.Scenes n (retireKey P policy s) (retireKey P policy s') := by
  unfold Invocation.retireKey
  split
  · exact h.releaseKey
  · exact h

theorem blank_written {image image' : Bytes} {bundle bundle' : OutputBuffer}
    (hlength : image.length = image'.length) (hbundle : bundle.blank = bundle'.blank)
    {g g' : Bytes} (hgray : g.length = g'.length) (b b' : Bundle) :
    (slots image ⟨b.encode ++ bundle.contents.drop 168, 168⟩ ⟨g, image.length⟩).blank =
      (slots image' ⟨b'.encode ++ bundle'.contents.drop 168, 168⟩ ⟨g', image'.length⟩).blank := by
  have hcapacity : bundle.contents.length = bundle'.contents.length :=
    (OutputBuffer.blank_eq_iff.mp hbundle).1
  rw [blank_slots, blank_slots, Bytes.blank_eq_iff.mpr hlength]
  congr 1
  · exact OutputBuffer.blank_eq_iff.mpr ⟨by simp [OutputBuffer.capacity, hcapacity], rfl⟩
  · exact OutputBuffer.blank_eq_iff.mpr ⟨hgray, hlength⟩

theorem Visits.perform {v v' : Visit σ} (h : T.Visits (n + 1) v v') (policy : KeyPolicy)
    {config : Config} {image image' : Bytes} {bundle bundle' gray gray' : OutputBuffer}
    (hv : v.parameters = slots image bundle gray) (hv' : v'.parameters = slots image' bundle' gray')
    (hfits : Fits config image bundle gray) (hfits' : Fits config image' bundle' gray')
    (hlength : image.length = image'.length) (hbundle : bundle.blank = bundle'.blank)
    (himages : T.images (Grayscale.gray image) (Grayscale.gray image')) :
    Agree (T.Outputs image image') (perform P policy image v).1 (perform P policy image' v').1 ∧
      T.Visits n (perform P policy image v).2 (perform P policy image' v').2 := by
  obtain ⟨hagree, hscenes⟩ := works_attestGray policy hfits.whole hfits'.whole himages n _ _ h.scene
  have hgray : (Grayscale.gray image).length = (Grayscale.gray image').length := by
    rw [length_gray hfits.whole, length_gray hfits'.whole, hlength]
  unfold Invocation.perform
  rcases hw : attestGray P policy image v.scene with ⟨outcome, t⟩
  rcases hw' : attestGray P policy image' v'.scene with ⟨outcome', t'⟩
  rw [hw, hw'] at hagree hscenes
  cases hagree with
  | error f => exact ⟨.error f, hscenes, h.parameters, h.storage⟩
  | @ok a a' ha =>
    obtain ⟨b, g⟩ := a
    obtain ⟨b', g'⟩ := a'
    obtain rfl : g = Grayscale.gray image := ha.gray
    obtain rfl : g' = Grayscale.gray image' := ha.gray'
    simp only [hv, hv', writeOutputs_slots hfits, writeOutputs_slots hfits']
    exact ⟨.ok ha, hscenes.retireKey policy, blank_written hlength hbundle hgray b b', h.storage⟩

/-! ## Ending -/

theorem Visits.fail {v v' : Visit σ} (h : T.Visits n v v') (id : UInt32) (f : Failure) :
    (fail id f v).1 = (fail id f v').1 ∧ T.Visits n (fail id f v).2 (fail id f v').2 := by
  have hcleared : v.parameters.clearOutputs.blank = v'.parameters.clearOutputs.blank := by
    rw [Parameters.clearOutputs_blank, Parameters.clearOutputs_blank, h.parameters]
  have hvisits : T.Visits n { v with parameters := v.parameters.clearOutputs }
      { v' with parameters := v'.parameters.clearOutputs } := ⟨h.scene, hcleared, h.storage⟩
  exact ⟨rfl, ((hvisits.log (.refl _)).log (.refl _)).log (.refl _)⟩

theorem Visits.succeed {v v' : Visit σ} (h : T.Visits n v v') (config : Config) (id : UInt32)
    {image image' : Bytes} {a a' : Attested} (ha : T.Outputs image image' a a')
    (hgray : a.gray.length = a'.gray.length) :
    (succeed config id a v).1 = (succeed config id a' v').1 ∧
      T.Visits n (succeed config id a v).2 (succeed config id a' v').2 := by
  have hdigest : T.same → Hex.encode a.bundle.digest.bytes = Hex.encode a'.bundle.digest.bytes :=
    fun hsame => by rw [T.digests_same ha.digest hsame]
  have hattested : T.Events
      (.attested id a.gray.length (Hex.encode a.bundle.digest.bytes) v.scene.context.completed)
      (.attested id a'.gray.length (Hex.encode a'.bundle.digest.bytes) v'.scene.context.completed) := by
    rw [← hgray, ← h.scene.completed_eq]
    exact ⟨by simp [Event.record, Event.Record.blank], fun hsame => by rw [hdigest hsame]⟩
  have hlogged := h.log hattested
  refine ⟨rfl, ?_⟩
  unfold Invocation.succeed
  cases config.persist with
  | false => exact hlogged.log (.refl _)
  | true => exact (hlogged.persist hdigest _ _).log (.refl _)

/-! ## The whole -/

theorem Visits.processAndAttest {v v' : Visit σ} (h : T.Visits (n + 1) v v') (config : Config)
    (id : UInt32) {image : Bytes} {bundle gray : OutputBuffer}
    (hv : v.parameters = slots image bundle gray)
    (himages : ∀ image', v'.parameters.image? = some image' →
      T.images (Grayscale.gray image) (Grayscale.gray image')) :
    (processAndAttest P config id v).1 = (processAndAttest P config id v').1 ∧
      T.Visits n (processAndAttest P config id v).2 (processAndAttest P config id v').2 := by
  have hblank := h.parameters
  rw [hv] at hblank
  obtain ⟨image', bundle', gray', hv', hlength, hbundle, hgray⟩ := slots_of_blank hblank
  unfold Invocation.processAndAttest
  rw [hv, hv']
  rcases checkLengths_of_blank config hlength hbundle hgray with ⟨cause, he, he'⟩ | ⟨hfits, hfits'⟩
  · rw [he, he']
    exact (h.fewer 1).fail id _
  · rw [checkLengths_ok hfits, checkLengths_ok hfits']
    obtain ⟨hagree, hvisits⟩ := h.perform config.keyPolicy hv hv' hfits hfits' hlength hbundle
      (himages image' (by rw [hv']; rfl))
    simp only
    rcases hp : Invocation.perform P config.keyPolicy image v with ⟨outcome, u⟩
    rcases hp' : Invocation.perform P config.keyPolicy image' v' with ⟨outcome', u'⟩
    rw [hp, hp'] at hagree hvisits
    cases hagree with
    | ok ha =>
      refine hvisits.succeed config id ha ?_
      rw [ha.gray, ha.gray', length_gray hfits.whole, length_gray hfits'.whole, hlength]
    | error f =>
      have haborted : T.Visits n { u with scene := u.scene.abort P }
          { u' with scene := u'.scene.abort P } :=
        ⟨hvisits.scene.abort, hvisits.parameters, hvisits.storage⟩
      exact haborted.fail id f

/-- An invocation ends with one status in both runs, and draws at most one key. -/
theorem Visits.run {v v' : Visit σ} (h : T.Visits (n + 1) v v') (config : Config)
    (id command : UInt32)
    (himages : ∀ image image', v.parameters.image? = some image →
      v'.parameters.image? = some image' → T.images (Grayscale.gray image) (Grayscale.gray image')) :
    (run P config id command v).1 = (run P config id command v').1 ∧
      T.Visits n (run P config id command v).2 (run P config id command v').2 := by
  have hkinds : v.parameters.kinds = v'.parameters.kinds := by
    rw [← Parameters.kinds_blank, h.parameters, Parameters.kinds_blank]
  unfold Invocation.run
  cases Command.ofId? command with
  | none => exact ⟨rfl, ((h.fewer 1).log (.refl _)).log (.refl _)⟩
  | some known =>
    cases known
    by_cases hv : v.parameters.kinds = Command.processAndAttest.kinds
    · obtain ⟨image, bundle, gray, hslots⟩ := (kinds_eq_iff v.parameters).mp
        ((validate_kinds_iff v.parameters).mp hv)
      simp only [Parameters.validate, ← hkinds, if_pos hv]
      exact (h.log (.refl _)).processAndAttest config id hslots fun image' himage' =>
        himages image image' (by rw [hslots]; rfl) himage'
    · simp only [Parameters.validate, ← hkinds, if_neg hv]
      exact ⟨trivial, ((h.fewer 1).log (.refl _)).log (.refl _)⟩

end Pairing

end AttestedImaging
