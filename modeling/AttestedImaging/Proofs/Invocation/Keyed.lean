import AttestedImaging.Proofs.Invocation.Course
import AttestedImaging.Proofs.Software.Spending

/-!
# Invocations in sessions that hold their key

If keys serve a session and nothing is stored, an invocation ends in the same way in every state of the
provider in which the key of its session stands and there is room for an operation.
-/

namespace AttestedImaging.Invocation

open Software (Ready attestation)

/-- How an invocation ends: what its caller is told, what becomes of its session, how many operations it
took and which key it gave up. -/
structure Ending where
  status : Status
  parameters : Parameters
  context : Context
  operations : Nat
  freed : Option Handle

namespace Ending

def rejected (ps : Parameters) (context : Context) : Ending where
  status := .badParameters
  parameters := ps
  context := context
  operations := 0
  freed := none

def misfit (image : Bytes) (bundle gray : OutputBuffer) (context : Context) : Ending :=
  rejected (slots image bundle.clear gray.clear) context

def failed (image : Bytes) (bundle gray : OutputBuffer) (context : Context) (k : Handle)
    (d : P256.Scalar) (f : Failure) : Ending where
  status := f.status
  parameters := slots image bundle.clear gray.clear
  context := { completed := context.completed }
  operations := Software.operations d
  freed := some k

def succeeded (image : Bytes) (bundle : OutputBuffer) (context : Context) (k : Handle)
    (d : P256.Scalar) (b : Bundle) : Ending where
  status := .ok
  parameters := slots image ⟨b.encode ++ bundle.contents.drop 168, 168⟩
    ⟨Grayscale.gray image, image.length⟩
  context := ⟨none, some k, some b, context.completed + 1⟩
  operations := Software.operations d
  freed := none

structure Describes (e : Ending) (v v' : Visit Software) (status : Status) : Prop where
  status_eq : status = e.status
  parameters_eq : v'.parameters = e.parameters
  context_eq : v'.scene.context = e.context
  storage_eq : v'.storage = v.storage
  provider_eq : v'.scene.device.provider = v.scene.device.provider.spent e.operations e.freed

end Ending

variable {config : Config} {image : Bytes} {bundle gray : OutputBuffer} {k : Handle}
  {d : P256.Scalar} {v v' : Visit Software} {status : Status}

theorem Processed.misfit_describes (hf : ¬ Fits config image bundle gray)
    (h : Processed Software.provider config image bundle gray v v' status) :
    (Ending.misfit image bundle gray v.scene.context).Describes v v' status := by
  cases h with
  | misfit _ hd hc hp hs => exact ⟨rfl, hp, hc, hs, hd.untouched.2⟩
  | failed calls f key hf' => exact absurd hf' hf
  | succeeded calls b key hf' => exact absurd hf' hf

theorem Processed.failed_describes (hpolicy : config.keyPolicy = .perSession)
    (hf : Fits config image bundle gray) {f : Failure}
    (hattest : attestation d (Grayscale.gray image) = .error f)
    (hkey : v.scene.context.key = some k) (hidle : v.scene.context.operation = none)
    (hs : Ready k d v.scene.device.provider)
    (h : Processed Software.provider config image bundle gray v v' status) :
    (Ending.failed image bundle gray v.scene.context k d f).Describes v v' status := by
  cases h with
  | misfit hf' => exact absurd hf hf'
  | failed calls f' key _ he hd hc hp hst =>
    rw [hpolicy, hkey] at he
    rw [hidle] at hd
    obtain ⟨t, ha, hreleased⟩ := hd.answers.of_append
    obtain ⟨rfl, houtcome, rfl⟩ := he.determined hs ha
    rw [hattest] at houtcome
    obtain rfl := Except.error.inj houtcome
    exact ⟨rfl, hp, hc, hst, Software.released_key (hs.passes _).key hreleased⟩
  | succeeded calls b key _ he hd =>
    rw [hpolicy, hkey] at he
    rw [hidle] at hd
    obtain ⟨t, ha, -⟩ := hd.answers.of_append
    have houtcome := (he.determined hs ha).2.1
    rw [hattest] at houtcome
    cases houtcome

theorem Processed.succeeded_describes (hpolicy : config.keyPolicy = .perSession)
    (hpersist : config.persist = false) (hf : Fits config image bundle gray) {b : Bundle}
    (hattest : attestation d (Grayscale.gray image) = .ok b)
    (hkey : v.scene.context.key = some k) (hidle : v.scene.context.operation = none)
    (hs : Ready k d v.scene.device.provider)
    (h : Processed Software.provider config image bundle gray v v' status) :
    (Ending.succeeded image bundle v.scene.context k d b).Describes v v' status := by
  cases h with
  | misfit hf' => exact absurd hf hf'
  | failed calls f key _ he hd =>
    rw [hpolicy, hkey] at he
    rw [hidle] at hd
    obtain ⟨t, ha, -⟩ := hd.answers.of_append
    have houtcome := (he.determined hs ha).2.1
    rw [hattest] at houtcome
    cases houtcome
  | succeeded calls b' key _ he hd hc hp hst =>
    rw [hpolicy, hkey] at he
    rw [hidle] at hd
    obtain ⟨t, ha, hreleased⟩ := hd.answers.of_append
    obtain ⟨rfl, houtcome, rfl⟩ := he.determined hs ha
    rw [hattest] at houtcome
    obtain rfl := Except.ok.inj houtcome
    rw [hpolicy] at hc hreleased
    rw [Config.archived, hpersist] at hst
    exact ⟨rfl, hp, hc, hst, hreleased.of_nil⟩

/-- There is one way for an invocation to end, whatever state the provider is in. -/
theorem exists_ending (hpolicy : config.keyPolicy = .perSession) (hpersist : config.persist = false)
    (command : UInt32) (ps : Parameters) {c : Context} (hkey : c.key = some k)
    (hidle : c.operation = none) (d : P256.Scalar) :
    ∃ e : Ending, e.operations ≤ 2 ∧ (e.freed = none ∨ e.freed = some k) ∧
      ((∀ image bundle gray, command = 0 → ps = slots image bundle gray →
        Ecdsa.Serves d [(Sha256.hash (Grayscale.gray image)).bytes]) → e.freed = none) ∧
      ∀ v v' status, v.parameters = ps → v.scene.context = c → Ready k d v.scene.device.provider →
        Course Software.provider config command v v' status → e.Describes v v' status := by
  -- The request, the session and the key decide, not the table of the provider.
  by_cases hr : Recognised command ps
  · obtain ⟨rfl, hkinds⟩ := hr
    obtain ⟨image, bundle, gray, rfl⟩ := (kinds_eq_iff ps).mp hkinds
    by_cases hf : Fits config image bundle gray
    · rcases hattest : attestation d (Grayscale.gray image) with f | b
      · refine ⟨.failed image bundle gray c k d f, Software.operations_le d, .inr rfl,
          fun hserves => ?_, ?_⟩
        · obtain ⟨b, hb⟩ := Software.attestation_of_serves (hserves image bundle gray rfl rfl)
          rw [hattest] at hb
          cases hb
        · rintro v v' status hps rfl hs h
          exact (h.processed hps).failed_describes hpolicy hf hattest hkey hidle hs
      · refine ⟨.succeeded image bundle c k d b, Software.operations_le d, .inl rfl,
          fun _ => rfl, ?_⟩
        rintro v v' status hps rfl hs h
        exact (h.processed hps).succeeded_describes hpolicy hpersist hf hattest hkey hidle hs
    · refine ⟨.misfit image bundle gray c, Nat.zero_le 2, .inl rfl, fun _ => rfl, ?_⟩
      rintro v v' status hps rfl hs h
      exact (h.processed hps).misfit_describes hf
  · refine ⟨.rejected ps c, Nat.zero_le 2, .inl rfl, fun _ => rfl, ?_⟩
    rintro v v' status hps rfl hs h
    cases h with
    | rejected _ hd hc hp hst => exact ⟨rfl, hp.trans hps, hc, hst, hd.untouched.2⟩
    | recognised hcommand hslots =>
      rw [← hps, hcommand, hslots] at hr
      exact absurd (recognised_slots _ _ _) hr

end AttestedImaging.Invocation
