import AttestedImaging.Proofs.Calls
import AttestedImaging.Proofs.Table

/-!
# Faults that only fail

With faults that make calls fail and do nothing else, an answer that is no error is that of the
provider beneath, and the state beneath changes only as its own calls change it.
-/

namespace AttestedImaging

variable {σ : Type} {P : Provider σ} {faults : List Fault}

/-- Every fault makes a call fail. -/
def Fault.OnlyFail (faults : List Fault) : Prop := ∀ f ∈ faults, ∃ e, f.effect = .fail e

theorem Fault.OnlyFail.forges (h : Fault.OnlyFail faults) :
    ∀ f ∈ faults, ∀ k, f.effect ≠ .forge k := by
  intro f hf k hforge
  obtain ⟨e, he⟩ := h f hf
  rw [he] at hforge
  cases hforge

theorem Fault.OnlyFail.onCall? (h : Fault.OnlyFail faults) {kind : CallKind} {count : Nat}
    {effect : Effect} (heffect : Fault.onCall? faults kind count = some effect) :
    ∃ e, effect = .fail e := by
  obtain ⟨f, hf, rfl⟩ := Option.map_eq_some_iff.mp heffect
  exact h f (List.mem_of_find?_eq_some hf)

/-! ## Answers -/

theorem withFaults_allocate_ok (hfaults : Fault.OnlyFail faults) {request : Allocation}
    {s s' : Counted σ} {k : Handle} (h : (P.withFaults faults).allocate request s = (.ok k, s')) :
    P.allocate request s.inner = (.ok k, s'.inner) := by
  rcases withFaults_allocate hfaults.forges h with ⟨⟨e, he⟩, -⟩ | hinner
  · cases he
  · exact hinner

theorem withFaults_compute_ok (hfaults : Fault.OnlyFail faults) {request : Computation}
    {s s' : Counted σ} {bytes : Bytes}
    (h : (P.withFaults faults).compute request s = (.ok bytes, s')) :
    P.compute request s.inner = (.ok bytes, s'.inner) := by
  simp only [Provider.withFaults, Counted.next] at h
  rcases heffect : Fault.onCall? faults request.callKind
    ((request.callKind :: s.past).count request.callKind) with _ | effect
  · rcases hc : P.compute request s.inner with ⟨answer, inner⟩
    simp only [heffect, hc] at h
    cases h
    rfl
  · obtain ⟨e, rfl⟩ := hfaults.onCall? heffect
    simp only [heffect] at h
    cases h

theorem answers_inner (hfaults : Fault.OnlyFail faults) {s t : Counted σ} {calls : List Call}
    (h : (P.withFaults faults).Answers s calls t) (hok : calls.findSome? Call.failure? = none) :
    P.Answers s.inner calls t.inner := by
  induction h with
  | nil => exact .nil _
  | @allocate request answer _ _ _ _ ha _ ih =>
    cases answer with
    | error e => cases hok
    | ok k => exact .allocate (withFaults_allocate_ok hfaults ha) (ih hok)
  | @compute request answer _ _ _ _ hc _ ih =>
    cases answer with
    | error e => cases hok
    | ok bytes =>
      rw [List.findSome?_cons] at hok
      split at hok
      · cases hok
      · exact .compute (withFaults_compute_ok hfaults hc) (ih hok)
  | release hr _ ih =>
    cases hr
    exact .release rfl (ih hok)

/-! ## What calls do to the state -/

/-- Whatever the calls, the states before and after them are so related. -/
structure Provider.Preserves (P : Provider σ) (R : σ → σ → Prop) : Prop where
  refl : ∀ s, R s s
  trans : ∀ {s t u}, R s t → R t u → R s u
  allocate : ∀ {request s answer s'}, P.allocate request s = (answer, s') → R s s'
  compute : ∀ {request s answer s'}, P.compute request s = (answer, s') → R s s'
  release : ∀ {x s found s'}, P.release x s = (found, s') → R s s'

theorem Provider.Preserves.answers {R : σ → σ → Prop} (hR : P.Preserves R) {s t : σ}
    {calls : List Call} (h : P.Answers s calls t) : R s t := by
  induction h with
  | nil s => exact hR.refl s
  | allocate ha _ ih => exact hR.trans (hR.allocate ha) ih
  | compute hc _ ih => exact hR.trans (hR.compute hc) ih
  | release hr _ ih => exact hR.trans (hR.release hr) ih

theorem Provider.Preserves.withFaults {R : σ → σ → Prop} (hR : P.Preserves R)
    (hfaults : Fault.OnlyFail faults) :
    (P.withFaults faults).Preserves fun s t => R s.inner t.inner where
  refl s := hR.refl s.inner
  trans h h' := hR.trans h h'
  allocate h := by
    rcases withFaults_allocate hfaults.forges h with ⟨-, hsame⟩ | hinner
    · rw [hsame]
      exact hR.refl _
    · exact hR.allocate hinner
  compute h := by
    rcases withFaults_compute h with hsame | hinner
    · rw [hsame]
      exact hR.refl _
    · rw [hinner]
      exact hR.compute rfl
  release h := by
    cases h
    exact hR.release rfl

end AttestedImaging
