import AttestedImaging.Proofs.Application.Run
import AttestedImaging.Proofs.Invocation.Discipline
import AttestedImaging.Provider.Software

/-!
# The calls of whole runs

Whatever the provider answers, the calls of every invocation are disciplined, and at the end of a run
each holding has been given up as often as it was brought.
-/

namespace AttestedImaging.Application

open Invocation (Fits slots)

variable {σ : Type}

/-- The calls of an invocation are those of a script up to the first that fails, and over a run each holding
is released as often as it was brought. -/
theorem calls_disciplined {P : Provider σ} {config : Config} {storage : Option Storage} {s₀ : σ}
    {a : Application σ} (ha : Reachable P config storage s₀ a) :
    (∀ number session image bundle gray, a.session? number = some session →
      Fits config image bundle gray → ∃ calls,
        a.device.After P calls (a.invoke P number 0 (slots image bundle gray)).2.device ∧
        Disciplined config.keyPolicy session.context.key (Grayscale.gray image) calls) ∧
    ((∀ number, a.session? number = none) → ∀ x : Holding,
      (a.device.calls.filterMap Call.acquired?).count x =
        (a.device.calls.filterMap Call.released?).count x) := by
  have hsound := ha.sound
  constructor
  · intro number session image bundle gray hsession hfits
    obtain ⟨status, v, a', hcourse, hinvoke, ha'⟩ :=
      invoke_course P hsession 0 (slots image bundle gray)
    rw [hsound.config_eq] at hcourse
    obtain ⟨calls, hdevice, hcalls⟩ :=
      (hcourse.processed rfl).disciplined (hsound.idle number session hsession) hfits
    refine ⟨calls, ?_, hcalls⟩
    rw [hinvoke, ha']
    exact hdevice
  · intro hended x
    have hbalance := hsound.settles.balance
    rw [holdings_eq_zero hended, zero_add, add_zero] at hbalance
    have := congrArg (Multiset.count x) hbalance
    simpa using this

/-- A provider without any slot. -/
theorem calls_disciplined_exhausted :
    (∃ calls, Disciplined .perInvocation none (Grayscale.gray [1, 2, 3]) calls ∧
      (run Software.provider [.openSession Kinds.allAbsent]
        (create Software.provider {} none { limit := 0 })).2.device.After Software.provider calls
        ((run Software.provider [.openSession Kinds.allAbsent]
          (create Software.provider {} none { limit := 0 })).2.invoke Software.provider 0 0
          (slots [1, 2, 3] (.ofContents (List.replicate 168 0)) (.ofContents [0, 0, 0]))).2.device) ∧
    ∀ x : Holding, ((run Software.provider [.openSession Kinds.allAbsent,
        .invoke 0 0 (slots [1, 2, 3] (.ofContents (List.replicate 168 0)) (.ofContents [0, 0, 0])),
        .drop 0] (create Software.provider {} none { limit := 0 })).2.device.calls.filterMap
          Call.acquired?).count x =
      ((run Software.provider [.openSession Kinds.allAbsent,
        .invoke 0 0 (slots [1, 2, 3] (.ofContents (List.replicate 168 0)) (.ofContents [0, 0, 0])),
        .drop 0] (create Software.provider {} none { limit := 0 })).2.device.calls.filterMap
          Call.released?).count x := by
  have hnew : Reachable Software.provider {} none { limit := 0 }
      (create Software.provider {} none { limit := 0 }) := .create
  constructor
  · obtain ⟨calls, hafter, hcalls⟩ := (calls_disciplined (hnew.run
      [.openSession Kinds.allAbsent])).1 0 { id := 1 } [1, 2, 3]
      (.ofContents (List.replicate 168 0)) (.ofContents [0, 0, 0]) (by decide +kernel)
      ⟨by decide, by decide, by decide, List.length_replicate.ge, by decide⟩
    exact ⟨calls, hcalls, hafter⟩
  · refine (calls_disciplined (hnew.run _)).2 fun number => ?_
    have hended : (run Software.provider [.openSession Kinds.allAbsent,
        .invoke 0 0 (slots [1, 2, 3] (.ofContents (List.replicate 168 0)) (.ofContents [0, 0, 0])),
        .drop 0] (create Software.provider {} none { limit := 0 })).2.sessions = [none] := by
      decide +kernel
    rw [session?, hended]
    cases number <;> rfl

end AttestedImaging.Application
