import AttestedImaging.Proofs.Attestation.Software
import AttestedImaging.Proofs.Pairing

/-!
# Software providers side by side

Two software providers with the same faults, whose tables have the same handles and under each handle
the same kind of entry. The keys differ. As long as all of them serve, no answer tells the two apart
but by the bytes of a coordinate, a digest or a signature.
-/

namespace AttestedImaging

open P256 (Scalar)

/-- The next so many keys. -/
def Randomness.keys : (count : Nat) → Randomness → List Scalar
  | 0, _ => []
  | count + 1, r => r.scalar.1 :: keys count r.scalar.2

theorem Randomness.keys_subset (count : Nat) (r : Randomness) : keys count r ⊆ keys (count + 1) r := by
  induction count generalizing r with
  | zero => exact List.nil_subset _
  | succ count ih => exact List.cons_subset_cons _ (ih r.scalar.2)

/-- Entries that may stand under one handle side by side. -/
inductive Entry.Alike (K K' : Scalar → Prop) : Entry → Entry → Prop
  | digest : Alike K K' .digest .digest
  | sign {d d' : Scalar} (h : K d) (h' : K' d') : Alike K K' (.sign d) (.sign d')
  | key {d d' : Scalar} (h : K d) (h' : K' d') : Alike K K' (.key d) (.key d')

namespace Assoc

variable {κ α : Type} [DecidableEq κ] {R : α → α → Prop} {m m' : Assoc κ α}

/-- The same keys in the same order, with related values. -/
abbrev Alike (R : α → α → Prop) (m m' : Assoc κ α) : Prop :=
  List.Forall₂ (fun e e' => e.1 = e'.1 ∧ R e.2 e'.2) m m'

theorem Alike.get? (h : Alike R m m') (k : κ) : Option.Rel R (m.get? k) (m'.get? k) := by
  induction h with
  | nil => exact .none
  | @cons e e' rest rest' he _ ih =>
    rw [Assoc.get?, Assoc.get?, ← he.1]
    split
    · exact .some he.2
    · exact ih

theorem Alike.put (h : Alike R m m') (k : κ) {v v' : α} (hv : R v v') :
    Alike R (m.put k v) (m'.put k v') := by
  induction h with
  | nil => exact .cons ⟨rfl, hv⟩ .nil
  | @cons e e' rest rest' he hrest ih =>
    rw [Assoc.put, Assoc.put, ← he.1]
    split
    · exact .cons ⟨rfl, hv⟩ hrest
    · exact .cons ⟨rfl, he.2⟩ ih

theorem Alike.erase (h : Alike R m m') (k : κ) : Alike R (m.erase k) (m'.erase k) := by
  induction h with
  | nil => exact .nil
  | @cons e e' rest rest' he _ ih =>
    rw [Assoc.erase, Assoc.erase, ← he.1]
    split
    · exact ih
    · exact .cons ⟨rfl, he.2⟩ ih

omit [DecidableEq κ] in
theorem Alike.keys_eq (h : Alike R m m') : m.keys = m'.keys := by
  induction h with
  | nil => rfl
  | cons he _ ih => exact congrArg₂ List.cons he.1 ih

end Assoc

namespace Software

variable {K K' : Scalar → Prop} {n : Nat} {s s' : Software}

/-- Two providers that differ in their keys only. All keys serve, also the next so many to be drawn. -/
structure Alike (K K' : Scalar → Prop) (n : Nat) (s s' : Software) : Prop where
  limit : s.limit = s'.limit
  next : s.next = s'.next
  entries : Assoc.Alike (Entry.Alike K K') s.entries s'.entries
  keys : ∀ d ∈ s.randomness.keys n, K d
  keys' : ∀ d ∈ s'.randomness.keys n, K' d

namespace Alike

theorem fewer (h : Alike K K' (n + 1) s s') : Alike K K' n s s' :=
  ⟨h.limit, h.next, h.entries, fun d hd => h.keys d (Randomness.keys_subset n _ hd),
    fun d hd => h.keys' d (Randomness.keys_subset n _ hd)⟩

theorem live (h : Alike K K' n s s') : s.live = s'.live := h.entries.length_eq

theorem firstFree? (h : Alike K K' n s s') (tries : Nat) (start : Handle) :
    Software.firstFree? s.entries tries start = Software.firstFree? s'.entries tries start := by
  induction tries generalizing start with
  | zero => rfl
  | succ tries ih =>
    rw [Software.firstFree?, Software.firstFree?, Assoc.contains_congr h.entries.keys_eq, ih]

theorem insert (h : Alike K K' n s s') {e e' : Entry} (he : Entry.Alike K K' e e') :
    (s.insert e).1 = (s'.insert e').1 ∧ Alike K K' n (s.insert e).2 (s'.insert e').2 := by
  have hfresh : s.fresh? = s'.fresh? := by
    rw [fresh?, fresh?, h.live, h.limit, h.next, h.firstFree?]
  unfold Software.insert
  rw [← hfresh, ← h.limit]
  cases s.fresh? with
  | none => exact ⟨rfl, h⟩
  | some k => exact ⟨rfl, rfl, rfl, h.entries.put k he, h.keys, h.keys'⟩

theorem key (h : Alike K K' n s s') (k : Handle) :
    Agree (fun d d' => K d ∧ K' d') (s.key k) (s'.key k) := by
  have hget := h.entries.get? k
  unfold Software.key
  generalize s.entries.get? k = entry? at hget ⊢
  generalize s'.entries.get? k = entry?' at hget ⊢
  cases hget with
  | none => exact .error _
  | some he =>
    cases he with
    | digest => exact .error _
    | sign => exact .error _
    | key hd hd' => exact .ok ⟨hd, hd'⟩

theorem operation (h : Alike K K' n s s') {request : Allocation} (hr : request ≠ .key) :
    (allocate request s).1 = (allocate request s').1 ∧
      Alike K K' n (allocate request s).2 (allocate request s').2 := by
  cases request with
  | key => exact absurd rfl hr
  | digest => exact h.insert .digest
  | sign k =>
    have hkey := h.key k
    simp only [allocate]
    generalize s.key k = key at hkey ⊢
    generalize s'.key k = key' at hkey ⊢
    cases hkey with
    | ok hd => exact h.insert (.sign hd.1 hd.2)
    | error e => exact ⟨rfl, h⟩

theorem draw (h : Alike K K' (n + 1) s s') :
    (allocate .key s).1 = (allocate .key s').1 ∧
      Alike K K' n (allocate .key s).2 (allocate .key s').2 := by
  have hdrawn : Alike K K' n { s with randomness := s.randomness.scalar.2 }
      { s' with randomness := s'.randomness.scalar.2 } :=
    ⟨h.limit, h.next, h.entries, fun d hd => h.keys d (List.mem_cons_of_mem _ hd),
      fun d hd => h.keys' d (List.mem_cons_of_mem _ hd)⟩
  exact hdrawn.insert (.key (h.keys _ List.mem_cons_self) (h.keys' _ List.mem_cons_self))

theorem release (h : Alike K K' n s s') (x : Holding) :
    (release x s).1 = (release x s').1 ∧ Alike K K' n (release x s).2 (release x s').2 := by
  have hget := h.entries.get? x.handle
  unfold Software.release
  generalize s.entries.get? x.handle = entry? at hget ⊢
  generalize s'.entries.get? x.handle = entry?' at hget ⊢
  cases hget with
  | none => exact ⟨rfl, h⟩
  | @some e e' he =>
    have hoperation : e.isOperation = e'.isOperation := by
      cases he <;> rfl
    have hmatches : matchesHolding x e = matchesHolding x e' := by
      cases x <;> simp only [matchesHolding, hoperation]
    simp only [hmatches]
    split
    · exact ⟨rfl, h.limit, h.next, h.entries.erase _, h.keys, h.keys'⟩
    · exact ⟨rfl, h⟩

end Alike

/-! ## Bytes -/

variable {D D' : List Bytes}

theorem Alike.digest (h : Alike K K' n s s') (o : Handle) (image image' : Bytes) :
    Agree (fun m m' => m = (Sha256.hash image).bytes ∧ m' = (Sha256.hash image').bytes)
      (compute (.digest o image) s) (compute (.digest o image') s') := by
  have hget := h.entries.get? o
  simp only [compute]
  generalize s.entries.get? o = entry? at hget ⊢
  generalize s'.entries.get? o = entry?' at hget ⊢
  cases hget with
  | none => exact .error _
  | some he =>
    cases he with
    | digest => exact .ok ⟨rfl, rfl⟩
    | sign => exact .error _
    | key => exact .error _

theorem exchangeable_of_serves {c c' : Bytes} (hc : c ≠ [] ∧ c.length ≤ 32)
    (hc' : c' ≠ [] ∧ c'.length ≤ 32) : Exchangeable c c' :=
  ⟨by simp [hc.1, hc'.1], .inr ⟨hc.2, hc'.2⟩⟩

theorem Alike.coordinate (h : Alike (Ecdsa.Serves · D) (Ecdsa.Serves · D') n s s') (k : Handle)
    (which : Coordinate) :
    Agree Exchangeable (compute (.coordinate k which) s) (compute (.coordinate k which) s') := by
  have hkey := h.key k
  simp only [compute]
  generalize s.key k = key at hkey ⊢
  generalize s'.key k = key' at hkey ⊢
  cases hkey with
  | error e => exact .error e
  | ok hd =>
    obtain ⟨c, hc, hne⟩ := coordinate_of_serves hd.1 which
    obtain ⟨c', hc', hne'⟩ := coordinate_of_serves hd.2 which
    simp only [bind, Except.bind, hc, hc']
    exact .ok (exchangeable_of_serves ⟨hne, length_coordinate hc⟩ ⟨hne', length_coordinate hc'⟩)

theorem Alike.sign (h : Alike (Ecdsa.Serves · D) (Ecdsa.Serves · D') n s s') (o : Handle)
    {digest digest' : Digest} (hD : digest.bytes ∈ D) (hD' : digest'.bytes ∈ D') :
    Agree (fun a a' => a.length = 64 ∧ a'.length = 64) (compute (.sign o digest.bytes) s)
      (compute (.sign o digest'.bytes) s') := by
  have hget := h.entries.get? o
  simp only [compute]
  generalize s.entries.get? o = entry? at hget ⊢
  generalize s'.entries.get? o = entry?' at hget ⊢
  cases hget with
  | none => exact .error _
  | some he =>
    cases he with
    | digest => exact .error _
    | key => exact .error _
    | sign hd hd' =>
      have hsigned : ∀ {d : Scalar} {m : Digest} {D : List Bytes}, Ecdsa.Serves d D → m.bytes ∈ D →
          ∃ value : Signature, signature d m.bytes = .ok value.bytes := by
        intro d m D hd hm
        obtain ⟨value, hvalue⟩ := Option.ne_none_iff_exists'.mp (hd.signs _ hm)
        exact ⟨value, by rw [signature, if_pos m.length_eq, hvalue]⟩
      obtain ⟨value, hvalue⟩ := hsigned hd hD
      obtain ⟨value', hvalue'⟩ := hsigned hd' hD'
      simp only [hvalue, hvalue']
      exact .ok ⟨value.length_eq, value'.length_eq⟩

end Software

/-! ## Faults -/

def Effect.adjust : Option Effect → Bytes → Bytes
  | some (.resize n), bytes => (bytes.take n).rightpad n 0
  | some (.replace bytes'), _ => bytes'
  | _, bytes => bytes

/-- The bytes that a fault may answer instead of others. -/
def Fault.replaced? (f : Fault) : Option Bytes :=
  match f.effect with
  | .replace bytes => some bytes
  | _ => none

theorem Fault.mem_replaced {faults : List Fault} {kind : CallKind} {count : Nat} {bytes : Bytes}
    (h : onCall? faults kind count = some (.replace bytes)) : bytes ∈ faults.filterMap replaced? := by
  obtain ⟨f, hf, heffect⟩ := Option.map_eq_some_iff.mp h
  exact List.mem_filterMap.mpr ⟨f, List.mem_of_find?_eq_some hf, by rw [replaced?, heffect]⟩

namespace Software

variable {faults : List Fault} {D D' : List Bytes} {n : Nat} {s s' : Counted Software}

theorem faulty_compute (faults : List Fault) (request : Computation) (s : Counted Software) :
    (provider.withFaults faults).compute request s =
      (match (s.next faults request.callKind).1 with
        | some (.fail e) => .error e
        | effect => (compute request s.inner).map (Effect.adjust effect),
       { s with past := request.callKind :: s.past }) := by
  have hkept : ∀ answer : Except ProviderError Bytes, answer = answer.map fun bytes => bytes := by
    intro answer
    cases answer <;> rfl
  simp only [Provider.withFaults, Counted.next]
  cases Fault.onCall? faults request.callKind
    ((request.callKind :: s.past).count request.callKind) with
  | none => exact congrArg (·, _) (hkept _)
  | some effect =>
    cases effect with
    | fail e => rfl
    | forge h => exact congrArg (·, _) (hkept _)
    | resize n => rfl
    | replace bytes => rfl

theorem faulty_compute_agree {R S : Bytes → Bytes → Prop} {request request' : Computation}
    (hkind : request.callKind = request'.callKind) (hpast : s.past = s'.past)
    (h : Agree R (compute request s.inner) (compute request' s'.inner))
    (hkept : ∀ m m', R m m' → S m m')
    (hresized : ∀ n m m', R m m' → S ((m.take n).rightpad n 0) ((m'.take n).rightpad n 0))
    (hreplaced : ∀ bytes ∈ faults.filterMap Fault.replaced?, S bytes bytes) :
    Agree S ((provider.withFaults faults).compute request s).1
      ((provider.withFaults faults).compute request' s').1 := by
  -- What a fault makes of one answer, it makes of the other.
  have hadjusted : ∀ effect, (∀ bytes, effect = some (.replace bytes) →
      bytes ∈ faults.filterMap Fault.replaced?) → Agree S
      ((compute request s.inner).map (Effect.adjust effect))
      ((compute request' s'.inner).map (Effect.adjust effect)) := by
    intro effect hreplace
    generalize compute request s.inner = answer at h ⊢
    generalize compute request' s'.inner = answer' at h ⊢
    cases h with
    | error e => exact .error e
    | ok hr =>
      refine .ok ?_
      rcases effect with _ | e | h | n | bytes
      · exact hkept _ _ hr
      · exact hkept _ _ hr
      · exact hkept _ _ hr
      · exact hresized n _ _ hr
      · exact hreplaced bytes (hreplace bytes rfl)
  -- As many calls have been made in both, so one fault falls on both.
  have hnext : (s.next faults request.callKind).1 = (s'.next faults request'.callKind).1 := by
    rw [Counted.next, Counted.next, hpast, hkind]
  rw [faulty_compute, faulty_compute, ← hnext]
  have heffect : ∀ bytes, (s.next faults request.callKind).1 = some (.replace bytes) →
      bytes ∈ faults.filterMap Fault.replaced? := fun bytes hb => Fault.mem_replaced hb
  generalize (s.next faults request.callKind).1 = effect at heffect ⊢
  rcases effect with _ | e | h | n | bytes
  · exact hadjusted _ heffect
  · exact .error e
  · exact hadjusted _ heffect
  · exact hadjusted _ heffect
  · exact hadjusted _ heffect

theorem faulty_allocate {K K' : Scalar → Prop} {request : Allocation}
    (hpast : s.past = s'.past) (hless : Alike K K' n s.inner s'.inner)
    (h : (allocate request s.inner).1 = (allocate request s'.inner).1 ∧
      Alike K K' n (allocate request s.inner).2 (allocate request s'.inner).2) :
    ((provider.withFaults faults).allocate request s).1 =
        ((provider.withFaults faults).allocate request s').1 ∧
      ((provider.withFaults faults).allocate request s).2.past =
        ((provider.withFaults faults).allocate request s').2.past ∧
      Alike K K' n ((provider.withFaults faults).allocate request s).2.inner
        ((provider.withFaults faults).allocate request s').2.inner := by
  simp only [Provider.withFaults, Counted.next, ← hpast]
  rcases Fault.onCall? faults request.callKind
    ((request.callKind :: s.past).count request.callKind) with _ | e | h' | n | bytes
  · exact ⟨h.1, rfl, h.2⟩
  · exact ⟨rfl, rfl, hless⟩
  · exact ⟨rfl, rfl, hless⟩
  · exact ⟨h.1, rfl, h.2⟩
  · exact ⟨h.1, rfl, h.2⟩

/-! ## The pairing -/

/-- The digests that may be signed when these images are attested: theirs, and those that a fault puts
in their place. -/
def signable (faults : List Fault) (images : List Bytes) : List Bytes :=
  images.map (fun image => (Sha256.hash (Grayscale.gray image)).bytes) ++
    faults.filterMap Fault.replaced?

/-- States of two faulty providers that stand side by side: the faults have come as far, and all keys
serve for what there is to sign. -/
structure Twins (faults : List Fault) (images images' : List Bytes) (n : Nat)
    (s s' : Counted Software) : Prop where
  past : s.past = s'.past
  inner : Alike (Ecdsa.Serves · (signable faults images)) (Ecdsa.Serves · (signable faults images')) n
    s.inner s'.inner

variable {images images' : List Bytes} {same : Prop}

theorem Twins.computed (h : Twins faults images images' n s s') {request request' : Computation}
    (hkind : request.callKind = request'.callKind) : Twins faults images images' n
      ((provider.withFaults faults).compute request s).2
      ((provider.withFaults faults).compute request' s').2 := by
  rw [faulty_compute, faulty_compute]
  exact ⟨by rw [hkind, h.past], h.inner⟩

/-- Images that the two runs attest. -/
def ImagesMet (same : Prop) (images images' : List Bytes) (g g' : Bytes) : Prop :=
  (∃ image ∈ images, g = Grayscale.gray image) ∧ (∃ image ∈ images', g' = Grayscale.gray image) ∧
    (same → g = g')

/-- Digests that the two runs may sign. -/
def DigestsMet (faults : List Fault) (same : Prop) (images images' : List Bytes)
    (d d' : Digest) : Prop :=
  d.bytes ∈ signable faults images ∧ d'.bytes ∈ signable faults images' ∧ (same → d = d')

theorem length_resized (n : Nat) (bytes : Bytes) : ((bytes.take n).rightpad n 0).length = n := by
  simp only [List.rightpad, List.length_append, List.length_take, List.length_replicate]
  omega

theorem resized_digest {n : Nat} {d e : Digest} (h : (d.bytes.take n).rightpad n 0 = e.bytes) :
    e = d := by
  -- The resized bytes have the length of a digest only if nothing was cut off or added.
  have hn : n = 32 := by rw [← length_resized n d.bytes, h, e.length_eq]
  have hd := d.length_eq
  subst hn
  rw [List.take_of_length_le (by omega), List.rightpad, hd, Nat.sub_self, List.replicate_zero,
    List.append_nil] at h
  exact Fixed.bytes_inj h.symm

theorem hash_mem_signable {image : Bytes} (h : image ∈ images) :
    (Sha256.hash (Grayscale.gray image)).bytes ∈ signable faults images :=
  List.mem_append_left _ (List.mem_map_of_mem h)

theorem Twins.digest (h : Twins faults images images' n s s') {g g' : Bytes}
    (hg : ImagesMet same images images' g g') (o : Handle) :
    Agree (DigestsAgree (DigestsMet faults same images images'))
      ((provider.withFaults faults).compute (.digest o g) s).1
      ((provider.withFaults faults).compute (.digest o g') s').1 := by
  obtain ⟨⟨image, himage, rfl⟩, ⟨image', himage', rfl⟩, hsame⟩ := hg
  have hmet : DigestsMet faults same images images' (Sha256.hash (Grayscale.gray image))
      (Sha256.hash (Grayscale.gray image')) :=
    ⟨hash_mem_signable himage, hash_mem_signable himage', fun h => by rw [hsame h]⟩
  refine faulty_compute_agree rfl h.past (h.inner.digest o _ _) ?_ ?_ ?_
  · rintro _ _ ⟨rfl, rfl⟩
    refine ⟨by rw [Fixed.length_eq, Fixed.length_eq], fun d d' hd hd' => ?_⟩
    rw [← Fixed.bytes_inj hd, ← Fixed.bytes_inj hd']
    exact hmet
  · rintro n _ _ ⟨rfl, rfl⟩
    refine ⟨by rw [length_resized, length_resized], fun d d' hd hd' => ?_⟩
    rw [resized_digest hd, resized_digest hd']
    exact hmet
  · refine fun bytes hbytes => ⟨rfl, fun d d' hd hd' => ?_⟩
    subst hd
    exact ⟨List.mem_append_right _ hbytes, List.mem_append_right _ (hd' ▸ hbytes),
      fun _ => Fixed.bytes_inj hd'⟩

theorem exchangeable_of_length {c c' : Bytes} (h : c.length = c'.length) : Exchangeable c c' :=
  ⟨by rw [← List.length_eq_zero_iff, h, List.length_eq_zero_iff], .inl h⟩

theorem Twins.coordinate (h : Twins faults images images' n s s') (k : Handle) (which : Coordinate) :
    Agree Exchangeable ((provider.withFaults faults).compute (.coordinate k which) s).1
      ((provider.withFaults faults).compute (.coordinate k which) s').1 :=
  faulty_compute_agree rfl h.past (h.inner.coordinate k which) (fun _ _ hc => hc)
    (fun _ _ _ _ => exchangeable_of_length (by rw [length_resized, length_resized]))
    fun _ _ => exchangeable_of_length rfl

theorem Twins.sign (h : Twins faults images images' n s s') {d d' : Digest}
    (hd : DigestsMet faults same images images' d d') (o : Handle) :
    Agree (fun a a' => a.length = a'.length)
      ((provider.withFaults faults).compute (.sign o d.bytes) s).1
      ((provider.withFaults faults).compute (.sign o d'.bytes) s').1 :=
  faulty_compute_agree rfl h.past (h.inner.sign o hd.1 hd.2.1) (fun _ _ ha => ha.1.trans ha.2.symm)
    (fun _ _ _ _ => by rw [length_resized, length_resized]) fun _ _ => rfl

/-- Two faulty providers side by side, in runs that attest these images. -/
def pairing (faults : List Fault) (same : Prop) (images images' : List Bytes) :
    Pairing (provider.withFaults faults) where
  same := same
  images := ImagesMet same images images'
  digests := DigestsMet faults same images images'
  states := Twins faults images images'
  digests_same h := h.2.2
  fewer h := ⟨h.past, h.inner.fewer⟩
  operation hr h := by
    obtain ⟨hanswer, hpast, hinner⟩ := faulty_allocate h.past h.inner (h.inner.operation hr)
    exact ⟨hanswer, hpast, hinner⟩
  key h := by
    obtain ⟨hanswer, hpast, hinner⟩ := faulty_allocate h.past h.inner.fewer h.inner.draw
    exact ⟨hanswer, hpast, hinner⟩
  digest h hs := ⟨hs.digest h _, hs.computed rfl⟩
  coordinate hs := ⟨hs.coordinate _ _, hs.computed rfl⟩
  sign h hs := ⟨hs.sign h _, hs.computed rfl⟩
  release h := by
    obtain ⟨hfound, hinner⟩ := h.inner.release _
    exact ⟨hfound, h.past, hinner⟩

end Software

end AttestedImaging
