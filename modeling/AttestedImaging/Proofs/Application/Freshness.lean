import AttestedImaging.Proofs.Application.Keys

/-!
# Keys that serve one invocation

If a key is to serve one invocation, every success signs with a key that was made in it, from a draw that
no other key was made from, and nothing is left of the key when the invocation is over.
-/

namespace AttestedImaging

theorem Software.refused_of_empty {s : Software} (h : s.entries = []) (k : Handle) :
    s.key k = .error (.unknownHandle k) ∧
      ∀ digest, compute (.sign k digest) s = .error (.unknownHandle k) := by
  unfold key compute
  rw [h]
  exact ⟨rfl, fun _ => rfl⟩

namespace Application

open Invocation (slots)

variable {faults : List Fault}

/-- Each success signs with a key that was drawn for it alone, and after an invocation, however it ends, no
handle stands for a key. -/
theorem key_fresh (hfaults : Fault.OnlyFail faults) {config : Config}
    (hpolicy : config.keyPolicy = .perInvocation) (storage : Option Storage) (limit : Nat)
    (randomness : Randomness) (requests : List Request) :
    let P := Software.provider.withFaults faults
    let a := create P config storage { inner := { limit, randomness } }
    let moments := history P requests a
    moments.flatMap Moment.draws =
      List.range' randomness.drawn ((a.run P requests).2.drawn - randomness.drawn) ∧
    (∀ m ∈ moments, m.keyAnswers.length ≤ 1) ∧
    (∀ past m rest ps', moments = past ++ m :: rest → m.reply = .answered .ok ps' →
      ∃ (b : Bundle) (k : Handle) (d : P256.Scalar) (draw : Nat),
        ps'.bundle? = some b.encode ∧ b.MadeWith d ∧ m.keys = [k, k, k] ∧ m.keyAnswers = [.ok k] ∧
        m.draws.getLast? = some draw ∧ randomness.draw? draw = some d ∧
        ∀ m' ∈ past ++ rest, draw ∉ m'.draws) ∧
    ∀ m ∈ moments, ∀ status ps', m.reply = .answered status ps' →
      m.after.device.provider.inner.entries = [] ∧
      ∀ k, m.after.device.provider.inner.key k = .error (.unknownHandle k) ∧
        ∀ digest, Software.compute (.sign k digest) m.after.device.provider.inner =
          .error (.unknownHandle k) := by
  intro P a moments
  have hdraws := history_draws hfaults requests a
  refine ⟨hdraws, ?_, ?_, ?_⟩
  · intro m hm
    obtain ⟨earlier, request, later, -, rfl⟩ := of_mem_history hm
    exact length_keyAnswers_le _ _ _
  · intro past m rest ps' hmoments hreply
    obtain ⟨earlier, request, later, -, -, hm, -⟩ := of_history_eq hmoments
    have ha : Reachable P config storage { inner := { limit, randomness } } (a.run P earlier).2 :=
      Reachable.create.run earlier
    obtain ⟨number, command, ps, rfl, -⟩ := moment_answered (hm ▸ hreply)
    have hsucceeds : m.Succeeds number := ⟨by rw [hm]; rfl, ps', hreply⟩
    obtain ⟨b, k, d, hb, hmade, hkeys, -, hsource⟩ := ha.succeeds hfaults hm hsucceeds
    rw [hreply] at hb
    rcases hsource with ⟨hheld, -⟩ | ⟨-, hone, draw, hlast, hdraw⟩
    · -- A session whose keys serve one invocation holds none.
      obtain ⟨session, hsession, hk⟩ := hheld.session
      rw [ha.sound.keyless hpolicy number session hsession] at hk
      cases hk
    · refine ⟨b, k, d, draw, hb, hmade, hkeys, hone, hlast, hdraw, ?_⟩
      have hnodup : (moments.flatMap Moment.draws).Nodup := hdraws ▸ List.nodup_range'
      exact not_mem_draws_of_nodup (hmoments ▸ hnodup) (List.mem_of_getLast? hlast)
  · intro m hm status ps' _
    obtain ⟨earlier, request, later, -, rfl⟩ := of_mem_history hm
    have ha : Reachable P config storage { inner := { limit, randomness } }
        (moment P request (a.run P earlier).2).after := (Reachable.create.run earlier).step request
    have htidy := ha.sound.tidy (Software.keepsTable.withFaults hfaults.forges) rfl
    have hempty := htidy.entries_eq_nil (heldKeys_eq_nil (ha.sound.keyless hpolicy))
    exact ⟨hempty, Software.refused_of_empty hempty⟩

/-- The first draw is no key, and the second is lost in an invocation that fails. -/
theorem key_fresh_third_draw :
    let P := Software.provider.withFaults [⟨.coordinate, some 1, .fail (.backend "")⟩]
    let invocation := Request.invoke 0 0 (slots [1, 2, 3] (.ofContents (List.replicate 168 0))
      (.ofContents [0, 0, 0]))
    let a := create P {} none { inner := { randomness := { schedule := [0] } } }
    let moments := history P [.openSession Kinds.allAbsent, invocation, invocation] a
    moments.map Moment.draws = [[], [0, 1], [2]] ∧
    ∃ m b k d, moments.getLast? = some m ∧ m.reply.bundle? = some (Bundle.encode b) ∧ b.MadeWith d ∧
      m.keyAnswers = [.ok k] ∧ d.val = 2 ∧ m.after.device.provider.inner.entries = [] := by
  intro P invocation a moments
  have hrun : moments.map (fun m => (m.draws, m.reply.bundle?.isSome)) =
      [([], false), ([0, 1], false), ([2], true)] := by
    decide +kernel
  have hfaults : Fault.OnlyFail [⟨.coordinate, some 1, .fail (.backend "")⟩] := by
    simp [Fault.OnlyFail]
  have hpolicy : ({} : Config).keyPolicy = .perInvocation := rfl
  obtain ⟨-, -, hfresh, hgone⟩ := key_fresh hfaults hpolicy none 8 { schedule := [0] }
    [.openSession Kinds.allAbsent, invocation, invocation]
  refine ⟨?_, ?_⟩
  · have hdraws := congrArg (List.map Prod.fst) hrun
    rwa [List.map_map] at hdraws
  · obtain ⟨m₀, m₁, m₂, hmoments⟩ : ∃ m₀ m₁ m₂, moments = [m₀, m₁] ++ m₂ :: [] := ⟨_, _, _, rfl⟩
    rw [hmoments] at hrun
    simp only [List.cons_append, List.nil_append, List.map_cons, List.map_nil, List.cons.injEq,
      Prod.mk.injEq, and_true] at hrun
    obtain ⟨-, -, hdraws, hsome⟩ := hrun
    obtain ⟨ps', hreply⟩ := Reply.answered_of_bundle? hsome
    obtain ⟨b, k, d, draw, hb, hmade, -, hone, hlast, hdraw, -⟩ := hfresh _ _ _ ps' hmoments hreply
    obtain rfl : 2 = draw := by simpa [hdraws] using hlast
    refine ⟨m₂, b, k, d, by rw [hmoments]; rfl, by rw [hreply]; exact hb, hmade, hone, ?_, ?_⟩
    · exact congrArg P256.Scalar.val (Option.some.inj hdraw).symm
    · have hmem : m₂ ∈ moments := by
        rw [hmoments]
        exact List.mem_append_right _ List.mem_cons_self
      exact (hgone m₂ hmem _ ps' hreply).1

end Application

end AttestedImaging
