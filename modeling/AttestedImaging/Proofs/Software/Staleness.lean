import AttestedImaging.Proofs.Bench
import AttestedImaging.Proofs.Software.Numbering
import AttestedImaging.Proofs.Software.Roles

/-!
# Stale handles and guards

A handle that has been released stays unknown, because its number is not given out again. So whoever
still has it, in a guard or elsewhere, can do nothing with it and takes nothing away from others.
-/

namespace AttestedImaging

namespace Software

/-- Nothing stands for the handle: all calls that use it are refused, and releases of it find nothing. -/
structure Inert (h : Handle) (s : Software) : Prop where
  computed : ∀ request, request.handle = h →
    provider.compute request s = (.error (.unknownHandle h), s)
  signed : provider.allocate (.sign h) s = (.error (.unknownHandle h), s)
  released : ∀ x, x.handle = h → provider.release x s = (false, s)

theorem inert_of_get? {s : Software} {h : Handle} (hget : s.entries.get? h = none) : Inert h s where
  computed request hh := by
    subst hh
    cases request with
    | digest h data =>
      have hget : s.entries.get? h = none := hget
      simp only [provider, compute, hget, Computation.handle]
    | coordinate k which =>
      have hget : s.entries.get? k = none := hget
      simp only [provider, compute, key, hget, Computation.handle]
      rfl
    | sign h digest =>
      have hget : s.entries.get? h = none := hget
      simp only [provider, compute, hget, Computation.handle]
  signed := by simp only [provider, allocate, key, hget]
  released x hx := by
    subst hx
    simp only [provider, release, hget]

theorem Inert.drop {h : Handle} {b : Bench Software} (hinert : Inert h b.device.provider)
    {number : Nat} {x : Holding} (hguard : b.guard? number = some x) (hx : x.handle = h) :
    (b.step provider (.drop number)).2.device.provider = b.device.provider := by
  have hreleased := hinert.released x hx
  simp only [Bench.step, hguard, Device.drop, Device.release, Device.log, hreleased]
  rfl

/-! ## Runs -/

/-- The handles that have been given out on a bench. -/
def issued (b : Bench Software) : List Handle := b.device.calls.filterMap Call.issued?

theorem issued_append (limit : Nat) (randomness : Randomness) (earlier later : List Bench.Step) :
    let b := ((Bench.make { limit, randomness }).run provider earlier).2
    ∃ calls, provider.Answers b.device.provider calls (b.run provider later).2.device.provider ∧
      issued (b.run provider later).2 = issued b ++ calls.filterMap Call.issued? := by
  intro b
  have hafter := Bench.run_after provider later b
  exact ⟨_, hafter.answers, by rw [issued, hafter.calls_eq, List.filterMap_append]; rfl⟩

theorem issued_numbers {limit : Nat} {randomness : Randomness} {steps : List Bench.Step}
    (hfew : (issued ((Bench.make { limit, randomness }).run provider steps).2).length <
      0xFFFFFFFF) :
    let b := ((Bench.make { limit, randomness }).run provider steps).2
    (issued b).map (·.raw.toNat) = List.range' 1 (issued b).length ∧
      Numbered (issued b).length b.device.provider := by
  have hanswers := (Bench.run_make provider steps { limit, randomness }).2
  have h := (Numbered.initial limit randomness).answers hanswers (by rwa [Nat.zero_add])
  simp only [Nat.zero_add] at h
  exact ⟨h.1, h.2.1⟩

theorem released_stays_out {limit : Nat} {randomness : Randomness} {earlier later : List Bench.Step}
    (hfew : (issued ((Bench.make { limit, randomness }).run provider (earlier ++ later)).2).length <
      0xFFFFFFFF) {h : Handle}
    (hissued : h ∈ issued ((Bench.make { limit, randomness }).run provider earlier).2)
    (hgone : h ∉ ((Bench.make { limit, randomness }).run provider
      earlier).2.device.provider.entries.keys) :
    h ∉ ((Bench.make { limit, randomness }).run provider
      (earlier ++ later)).2.device.provider.entries.keys := by
  obtain ⟨calls, hanswers, happend⟩ := issued_append limit randomness earlier later
  rw [Bench.run_append] at hfew ⊢
  rw [happend, List.length_append] at hfew
  obtain ⟨hnumbers, hnumbered⟩ := issued_numbers (Nat.lt_of_le_of_lt (Nat.le_add_right _ _) hfew)
  refine (hnumbered.answers hanswers hfew).2.2 h ?_ hgone
  have hnumber := List.mem_map_of_mem (f := (·.raw.toNat)) hissued
  rw [hnumbers, List.mem_range'_1] at hnumber
  omega

/-- A handle that has been released can no longer be used or released, not by a guard either, as long as the
numbers have not come round. -/
theorem stale_handles_inert (limit : Nat) (randomness : Randomness) (steps : List Bench.Step)
    (hfew : (issued ((Bench.make { limit, randomness }).run provider steps).2).length <
      0xFFFFFFFF) :
    let made := Bench.make { limit, randomness }
    let replies := (made.run provider steps).1
    let b := (made.run provider steps).2
    (issued b).map (·.raw.toNat) = List.range' 1 (issued b).length ∧
    (∀ earlier later h, steps = earlier ++ later → h ∈ issued (made.run provider earlier).2 →
      h ∉ (made.run provider earlier).2.device.provider.entries.keys →
      Inert h b.device.provider ∧ ∀ number x, b.guard? number = some x → x.handle = h →
        (b.step provider (.drop number)).2.device.provider = b.device.provider) ∧
    b.device.calls = (steps.zip replies).flatMap Bench.calls ∧
    (∀ number, (steps.zip replies).filterMap (Bench.dropped? number) ++ (b.guard? number).toList =
      (steps.filterMap Bench.Step.made?)[number]?.toList) ∧
    (b.finish provider).device.calls = b.device.calls ++ Call.releases (b.guards.filterMap id) := by
  refine ⟨(issued_numbers hfew).1, ?_, (Bench.run_make provider steps _).1,
    Bench.run_make_guard provider steps _, (Bench.finish_calls provider _).1⟩
  rintro earlier later h rfl hissued hgone
  have hinert := inert_of_get? ((Assoc.get?_eq_none_iff _ _).mpr
    (released_stays_out hfew hissued hgone))
  exact ⟨hinert, fun number x hguard hx => hinert.drop hguard hx⟩

/-- Two guards hold the same key. After one is dropped, the other holds a stale handle. -/
theorem stale_handles_inert_second_guard :
    let earlier : List Bench.Step :=
      [.allocate .key, .guard (.key ⟨1⟩), .guard (.key ⟨1⟩), .drop 1]
    let b := ((Bench.make { limit := 1 }).run provider (earlier ++ [.allocate .digest])).2
    (issued b).length < 0xFFFFFFFF ∧ (issued b).map (·.raw.toNat) = [1, 2] ∧
      Inert ⟨1⟩ b.device.provider ∧
      (b.step provider (.drop 0)).2.device.provider = b.device.provider := by
  intro earlier b
  have hstale := stale_handles_inert 1 {} (earlier ++ [.allocate .digest]) (by decide +kernel)
  have hissued : (issued b).map (·.raw.toNat) = [1, 2] := by decide +kernel
  have hguard : b.guard? 0 = some (.key ⟨1⟩) := by decide +kernel
  have hinert := hstale.2.1 earlier [.allocate .digest] ⟨1⟩ rfl (by decide +kernel) (by decide +kernel)
  exact ⟨by decide +kernel, hissued, hinert.1, hinert.2 0 (.key ⟨1⟩) hguard rfl⟩

end Software

end AttestedImaging
