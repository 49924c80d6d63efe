import AttestedImaging.Proofs.Application.Atomicity
import AttestedImaging.Proofs.Application.Delivery
import AttestedImaging.Proofs.Application.History
import AttestedImaging.Proofs.Application.Run
import AttestedImaging.Proofs.Storage

/-!
# What the storage holds

An archive is what becomes of a list of bundles that are put away one after the other. With a storage in
memory to which attestations go, the objects after a run are the archive of the bundles that were
delivered, whatever the provider does.
-/

namespace AttestedImaging

/-! ## Archives -/

/-- The name under which a bundle is kept: the hexadecimal text of its digest. -/
def bundleName (bundle : Bytes) : String := Hex.encode (bundle.take 32)

theorem bundleName_encode (b : Bundle) : bundleName b.encode = Hex.encode b.digest.bytes := by
  unfold bundleName Bundle.encode
  rw [List.append_assoc, List.append_assoc, List.take_left' b.digest.length_eq]

namespace Archive

/-- Puts a bundle away, unless its name is new and there are `capacity` objects already. -/
def add (capacity : Option Nat) (objects : Assoc String Bytes) (bundle : Bytes) :
    Assoc String Bytes :=
  if objects.get? (bundleName bundle) = none ∧ capacity.any (· ≤ objects.length) then objects
  else objects.put (bundleName bundle) bundle

def ofBundles (capacity : Option Nat) (bundles : List Bytes) : Assoc String Bytes :=
  bundles.foldl (add capacity) []

theorem ofBundles_concat (capacity : Option Nat) (bundles : List Bytes) (bundle : Bytes) :
    ofBundles capacity (bundles ++ [bundle]) = add capacity (ofBundles capacity bundles) bundle := by
  unfold ofBundles
  rw [List.foldl_append]
  rfl

theorem keys_nodup (capacity : Option Nat) (bundles : List Bytes) :
    (ofBundles capacity bundles).keys.Nodup := by
  induction bundles using List.reverseRecOn with
  | nil => exact List.nodup_nil
  | append_singleton bundles last ih =>
    rw [ofBundles_concat, add]
    split
    · exact ih
    · exact Assoc.keys_put_nodup ih _ _

theorem of_get? {capacity : Option Nat} {bundles : List Bytes} {name : String} {bundle : Bytes}
    (h : (ofBundles capacity bundles).get? name = some bundle) :
    bundleName bundle = name ∧ ∃ earlier later, bundles = earlier ++ bundle :: later ∧
      ∀ other ∈ later, bundleName other ≠ name := by
  induction bundles using List.reverseRecOn with
  | nil => cases h
  | append_singleton bundles last ih =>
    rw [ofBundles_concat, add] at h
    -- A later bundle of this name would have taken the place of the one that is found.
    have hlater : bundleName last ≠ name → (ofBundles capacity bundles).get? name = some bundle →
        bundleName bundle = name ∧ ∃ earlier later, bundles ++ [last] = earlier ++ bundle :: later ∧
          ∀ other ∈ later, bundleName other ≠ name := by
      intro hlast hfound
      obtain ⟨hname, earlier, later, rfl, hothers⟩ := ih hfound
      refine ⟨hname, earlier, later ++ [last], by simp, ?_⟩
      intro other hother
      rcases List.mem_append.mp hother with hother | hother
      · exact hothers other hother
      · rwa [List.mem_singleton.mp hother]
    split at h
    · rename_i hskipped
      apply hlater _ h
      rintro rfl
      rw [hskipped.1] at h
      cases h
    · rw [Assoc.get?_put] at h
      split at h
      · rename_i hname
        obtain rfl := Option.some.inj h
        exact ⟨hname, bundles, [], rfl, by simp⟩
      · rename_i hname
        exact hlater hname h

end Archive

theorem Storage.keep_memory (capacity : Option Nat) (objects : Assoc String Bytes) (b : Bundle) :
    (memory { capacity, objects }).keep (Hex.encode b.digest.bytes) b.encode =
      memory { capacity, objects := Archive.add capacity objects b.encode } := by
  have hadd : (objects.get? (bundleName b.encode) = none ∧ capacity.any (· ≤ objects.length)) ↔
      ∃ limit, ObjectStore.Refuses ⟨capacity, objects⟩ (bundleName b.encode) limit := by
    simp only [ObjectStore.refuses_iff, Option.any_eq_true, decide_eq_true_eq]
    constructor
    · rintro ⟨hnew, limit, hcapacity, hle⟩
      exact ⟨limit, hcapacity, hnew, hle⟩
    · rintro ⟨limit, hcapacity, hnew, hle⟩
      exact ⟨hnew, limit, hcapacity, hle⟩
  rw [← bundleName_encode, keep, store, Archive.add]
  by_cases hfull : ∃ limit, ObjectStore.Refuses ⟨capacity, objects⟩ (bundleName b.encode) limit
  · obtain ⟨limit, hrefuses⟩ := hfull
    rw [ObjectStore.store_of_refuses hrefuses, if_pos (hadd.mpr ⟨limit, hrefuses⟩)]
    rfl
  · rw [ObjectStore.store_of_takes (not_exists.mp hfull), if_neg (mt hadd.mp hfull)]
    rfl

/-! ## Deliveries -/

/-- The bytes of a bundle, in front of the buffer in slot 1. -/
def Parameters.bundle? (ps : Parameters) : Option Bytes :=
  (ps[1]?.bind Slot.output?).map (·.contents.take 168)

namespace Invocation

variable {σ : Type}

theorem bundle?_slots (image rest : Bytes) (b : Bundle) (gray : OutputBuffer) :
    (slots image ⟨b.encode ++ rest, 168⟩ gray).bundle? = some b.encode :=
  congrArg some (List.take_left' b.length_encode)

theorem Course.archived {P : Provider σ} {config : Config} {command : UInt32} {v v' : Visit σ}
    {status : Status} (h : Course P config command v v' status) (hok : status = .ok) :
    ∃ b : Bundle, v'.parameters.bundle? = some b.encode ∧
      v'.storage = config.archived b v.storage := by
  cases h with
  | rejected hr => cases hok
  | @recognised image bundle gray _ hcommand hslots h =>
    cases h with
    | misfit hf => cases hok
    | failed calls f => exact absurd hok f.status_ne_ok
    | succeeded calls b key hf he hd hc hp hs =>
      refine ⟨b, ?_, hs⟩
      rw [hp]
      exact bundle?_slots image _ b _

end Invocation

namespace Application

variable {σ : Type}

/-- The bytes that a successful invocation delivers. -/
def Reply.bundle? : Reply → Option Bytes
  | .answered .ok ps => ps.bundle?
  | _ => none

/-- What one request does to the storage: a success archives its bundle, and all else does nothing. -/
inductive Archives (config : Config) (reply : Reply) (before after : Option Storage) : Prop
  | delivered (b : Bundle) (hb : reply.bundle? = some b.encode)
      (hs : after = config.archived b before)
  | nothing (hr : ∀ ps, reply ≠ .answered .ok ps) (hs : after = before)

theorem Reply.bundle?_eq_none {reply : Reply} (h : ∀ ps, reply ≠ .answered .ok ps) :
    reply.bundle? = none := by
  cases reply with
  | answered status ps =>
    cases status with
    | ok => exact absurd rfl (h ps)
    | cryptoFailure => rfl
    | badParameters => rfl
    | outOfResources => rfl
  | opened => rfl
  | refused => rfl
  | ended => rfl
  | noSession => rfl

theorem Reply.answered_of_bundle? {reply : Reply} (h : reply.bundle?.isSome = true) :
    ∃ ps, reply = .answered .ok ps := by
  refine Classical.byContradiction fun hnot => ?_
  rw [Reply.bundle?_eq_none fun ps hps => hnot ⟨ps, hps⟩] at h
  cases h

theorem invoke_archives (P : Provider σ) (number : Nat) (command : UInt32) (ps : Parameters)
    (a : Application σ) : Archives a.config (a.step P (.invoke number command ps)).1 a.storage
      (a.step P (.invoke number command ps)).2.storage := by
  rcases hsession : a.session? number with _ | session
  · have hstep : a.step P (.invoke number command ps) = (.noSession, a) := by
      simp only [step, invoke, hsession]
    rw [hstep]
    exact .nothing (fun _ h => by cases h) rfl
  · obtain ⟨status, v, a', hcourse, hinvoke, rfl⟩ := invoke_course P hsession command ps
    simp only [step, hinvoke]
    by_cases hok : status = .ok
    · obtain ⟨b, hb, hs⟩ := hcourse.archived hok
      subst hok
      exact .delivered b hb hs
    · refine .nothing (fun ps' h => ?_) (hcourse.kept hok).storage
      cases h
      exact hok rfl

theorem drop_storage (P : Provider σ) (number : Nat) (a : Application σ) :
    (a.drop P number).2.storage = a.storage := by
  unfold drop
  split <;> rfl

theorem step_archives (P : Provider σ) (request : Request) (a : Application σ) :
    Archives a.config (a.step P request).1 a.storage (a.step P request).2.storage := by
  -- Only an invocation is answered, so the others have only to leave the storage alone.
  have hnothing : (∀ number command ps, request ≠ .invoke number command ps) →
      (a.step P request).2.storage = a.storage →
      Archives a.config (a.step P request).1 a.storage (a.step P request).2.storage := by
    intro hother hs
    refine .nothing (fun ps' h => ?_) hs
    obtain ⟨number, command, ps, hrequest, -⟩ := moment_answered (P := P) h
    exact hother number command ps hrequest
  cases request with
  | invoke number command ps => exact invoke_archives P number command ps a
  | openSession kinds =>
    apply hnothing (fun _ _ _ h => by cases h)
    rw [step_openSession]
    rcases openSession_cases P kinds a with ⟨f, ha⟩ | ⟨session, -, ha⟩ <;> rw [ha]
    rfl
  | close number =>
    apply hnothing (fun _ _ _ h => by cases h)
    rw [step_close, ← drop_storage P number a]
    rcases close_cases P number a with hclose | ⟨e, hclose⟩ <;> rw [hclose]
    rfl
  | drop number =>
    apply hnothing (fun _ _ _ h => by cases h)
    rw [step_drop, drop_storage]

/-! ## Runs -/

/-- The bundles that were delivered, in their order. -/
def deliveries (moments : List (Moment σ)) : List Bytes := moments.filterMap (·.reply.bundle?)

theorem deliveries_concat (moments : List (Moment σ)) (m : Moment σ) :
    deliveries (moments ++ [m]) = deliveries moments ++ m.reply.bundle?.toList := by
  rw [deliveries, List.filterMap_append, ← deliveries, List.filterMap_cons, List.filterMap_nil]
  cases m.reply.bundle? <;> rfl

theorem Archives.keep {config : Config} {reply : Reply} {capacity : Option Nat}
    {objects : Assoc String Bytes} {after : Option Storage}
    (h : Archives config reply (some (.memory { capacity, objects })) after)
    (hpersist : config.persist = true) : after = some (.memory
      { capacity, objects := reply.bundle?.toList.foldl (Archive.add capacity) objects }) := by
  cases h with
  | delivered b hb hs =>
    rw [hs, hb, Config.archived, if_pos hpersist, Option.map_some, Storage.keep_memory]
    rfl
  | nothing hr hs =>
    rw [hs, Reply.bundle?_eq_none hr]
    rfl

theorem run_storage (P : Provider σ) {config : Config} (hpersist : config.persist = true)
    (capacity : Option Nat) (s₀ : σ) (requests : List Request) :
    ((create P config (some (.memory { capacity })) s₀).run P requests).2.storage =
      some (.memory
        { capacity
          objects := Archive.ofBundles capacity
            (deliveries (history P requests (create P config (some (.memory { capacity })) s₀))) }) := by
  induction requests using List.reverseRecOn with
  | nil => rfl
  | append_singleton requests request ih =>
    have hsound : Sound P config s₀
        ((create P config (some (.memory { capacity })) s₀).run P requests).2 :=
      (Reachable.create.run requests).sound
    have hstep := step_archives P request
      ((create P config (some (.memory { capacity })) s₀).run P requests).2
    rw [hsound.config_eq, ih] at hstep
    rw [run_append, history_append, history, history, deliveries_concat, Archive.ofBundles,
      List.foldl_append]
    exact hstep.keep hpersist

theorem of_deliveries_eq {moments : List (Moment σ)} {earlier later : List Bytes} {bundle : Bytes}
    (h : deliveries moments = earlier ++ bundle :: later) : ∃ past m rest,
      moments = past ++ m :: rest ∧ m.reply.bundle? = some bundle ∧
        ∀ m' ∈ rest, ∀ other, m'.reply.bundle? = some other → other ∈ later := by
  obtain ⟨past, rest, rfl, -, hrest⟩ := List.filterMap_eq_append_iff.mp h
  obtain ⟨skipped, m, rest, rfl, -, hm, rfl⟩ := List.filterMap_eq_cons_iff.mp hrest
  refine ⟨past ++ skipped, m, rest, by simp, hm, ?_⟩
  intro m' hm' other hother
  exact List.mem_filterMap.mpr ⟨m', hm', hother⟩

theorem history_archives {P : Provider σ} {config : Config} {storage : Option Storage} {s₀ : σ}
    {requests : List Request} {m : Moment σ}
    (hm : m ∈ history P requests (create P config storage s₀)) :
    Archives config m.reply m.before.storage m.after.storage := by
  obtain ⟨earlier, request, later, -, rfl⟩ := of_mem_history hm
  have hsound : Sound P config s₀ ((create P config storage s₀).run P earlier).2 :=
    (Reachable.create.run earlier).sound
  have hstep := step_archives P request ((create P config storage s₀).run P earlier).2
  rwa [hsound.config_eq] at hstep

/-- After a run the objects are the archive of the bundles that were delivered, and each is the bundle of
the last success with its digest. -/
theorem storage_archives (P : Provider σ) {config : Config} (hpersist : config.persist = true)
    (capacity : Option Nat) (s₀ : σ) (requests : List Request) :
    let a := create P config (some (.memory { capacity })) s₀
    let moments := history P requests a
    let objects := Archive.ofBundles capacity (deliveries moments)
    (a.run P requests).2.storage = some (.memory { capacity, objects }) ∧ objects.keys.Nodup ∧
    (∀ name bytes, objects.get? name = some bytes → ∃ b past m rest,
      Bundle.decode bytes = .ok b ∧ Hex.encode b.digest.bytes = name ∧
      moments = past ++ m :: rest ∧ m.reply.bundle? = some bytes ∧
      ∀ m' ∈ rest, ∀ b' : Bundle, m'.reply.bundle? = some b'.encode → b'.digest ≠ b.digest) ∧
    (∀ m ∈ moments, ∀ ps, m.reply = .answered .ok ps → ∃ b : Bundle, ps.bundle? = some b.encode) ∧
    (∀ m ∈ moments, (∀ ps, m.reply ≠ .answered .ok ps) → m.after.storage = m.before.storage) ∧
    ∀ d d' : Digest, Hex.encode d.bytes = Hex.encode d'.bytes → d = d' := by
  refine ⟨run_storage P hpersist capacity s₀ requests, Archive.keys_nodup _ _, ?_, ?_, ?_, ?_⟩
  · -- What is found is the last bundle that was archived under its name.
    intro name bytes hget
    obtain ⟨rfl, earlier, later, hsplit, hlater⟩ := Archive.of_get? hget
    obtain ⟨past, m, rest, hmoments, hm, hrest⟩ := of_deliveries_eq hsplit
    obtain ⟨b, hb⟩ : ∃ b : Bundle, bytes = b.encode := by
      cases history_archives (hmoments ▸ List.mem_append_right past List.mem_cons_self) with
      | delivered b hb => exact ⟨b, Option.some.inj (hm.symm.trans hb)⟩
      | nothing hr =>
        rw [Reply.bundle?_eq_none hr] at hm
        cases hm
    subst hb
    refine ⟨b, past, m, rest, ?_, (bundleName_encode b).symm, hmoments, hm, ?_⟩
    · simpa using b.decode_encode_append []
    · intro m' hm' b' hb' hdigest
      apply hlater _ (hrest m' hm' _ hb')
      rw [bundleName_encode, bundleName_encode, hdigest]
  · -- A success delivers a bundle.
    intro m hm ps hreply
    cases history_archives hm with
    | delivered b hb =>
      rw [hreply] at hb
      exact ⟨b, hb⟩
    | nothing hr => exact absurd hreply (hr ps)
  · -- Nothing else is stored.
    intro m hm hfailed
    cases history_archives hm with
    | delivered b hb =>
      rw [Reply.bundle?_eq_none hfailed] at hb
      cases hb
    | nothing hr hs => exact hs
  · intro d d' hname
    exact Fixed.bytes_inj (Hex.encode_inj hname)

/-- A memory with room for one object, and two successes with one digest. -/
theorem storage_archives_short :
    let P := constantProvider shortBundle
    let invocation := Request.invoke 0 0 (Invocation.slots [1, 2, 3]
      (.ofContents (List.replicate 170 9)) (.ofContents [0, 0, 0]))
    ((create P { persist := true } (some (.memory { capacity := some 1 })) ()).run P
      [.openSession Kinds.allAbsent, invocation, invocation]).2.storage = some (.memory
        { capacity := some 1
          objects := [(Hex.encode shortBundle.digest.bytes, shortBundle.encode)] }) := by
  intro P invocation
  have hobjects : Archive.ofBundles (some 1) (deliveries (history P
      [.openSession Kinds.allAbsent, invocation, invocation]
      (create P { persist := true } (some (.memory { capacity := some 1 })) ()))) =
      [(Hex.encode shortBundle.digest.bytes, shortBundle.encode)] := by
    decide +kernel
  have hpersist : ({ persist := true } : Config).persist = true := rfl
  have h := (storage_archives P hpersist (some 1) ()
    [.openSession Kinds.allAbsent, invocation, invocation]).1
  rw [h, hobjects]

end Application

end AttestedImaging
