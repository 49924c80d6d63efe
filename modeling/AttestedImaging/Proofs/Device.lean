import AttestedImaging.Session

/-!
# What calls do to a device

`Answers` says that a provider can answer a list of calls as it stands there, and `After` that a
device has made these calls and no others. Both hold whatever the provider does.
-/

namespace AttestedImaging

variable {σ : Type} {P : Provider σ}

/-- The provider gives these answers one after the other, and goes from one state to another. -/
inductive Provider.Answers (P : Provider σ) : σ → List Call → σ → Prop
  | nil (s : σ) : P.Answers s [] s
  | allocate {request : Allocation} {answer : Except ProviderError Handle} {s s' t : σ}
      {calls : List Call} (h : P.allocate request s = (answer, s')) (rest : P.Answers s' calls t) :
      P.Answers s (.allocate request answer :: calls) t
  | compute {request : Computation} {answer : Except ProviderError Bytes} {s s' t : σ}
      {calls : List Call} (h : P.compute request s = (answer, s')) (rest : P.Answers s' calls t) :
      P.Answers s (.compute request answer :: calls) t
  | release {holding : Holding} {found : Bool} {s s' t : σ} {calls : List Call}
      (h : P.release holding s = (found, s')) (rest : P.Answers s' calls t) :
      P.Answers s (.release holding :: calls) t

theorem Provider.Answers.append {s t u : σ} {calls calls' : List Call} (h : P.Answers s calls t)
    (h' : P.Answers t calls' u) : P.Answers s (calls ++ calls') u := by
  induction h with
  | nil => exact h'
  | allocate ha _ ih => exact .allocate ha (ih h')
  | compute hc _ ih => exact .compute hc (ih h')
  | release hr _ ih => exact .release hr (ih h')

theorem Provider.Answers.of_append {s u : σ} {calls calls' : List Call}
    (h : P.Answers s (calls ++ calls') u) : ∃ t, P.Answers s calls t ∧ P.Answers t calls' u := by
  induction calls generalizing s with
  | nil => exact ⟨s, .nil s, h⟩
  | cons c rest ih =>
    cases h with
    | allocate ha h =>
      obtain ⟨t, ht, hu⟩ := ih h
      exact ⟨t, .allocate ha ht, hu⟩
    | compute hc h =>
      obtain ⟨t, ht, hu⟩ := ih h
      exact ⟨t, .compute hc ht, hu⟩
    | release hr h =>
      obtain ⟨t, ht, hu⟩ := ih h
      exact ⟨t, .release hr ht, hu⟩

theorem Provider.Answers.of_nil {s t : σ} (h : P.Answers s [] t) : t = s := by
  cases h
  rfl

namespace Device

/-- What has become of a device after these calls. -/
structure After (P : Provider σ) (d : Device σ) (calls : List Call) (d' : Device σ) : Prop where
  calls_eq : d'.calls = d.calls ++ calls
  answers : P.Answers d.provider calls d'.provider

theorem After.refl (d : Device σ) : d.After P [] d := ⟨by simp, .nil _⟩

theorem After.trans {d d' d'' : Device σ} {calls calls' : List Call} (h : d.After P calls d')
    (h' : d'.After P calls' d'') : d.After P (calls ++ calls') d'' :=
  ⟨by rw [h'.calls_eq, h.calls_eq, List.append_assoc], h.answers.append h'.answers⟩

theorem After.log {d d' : Device σ} {calls : List Call} (h : d.After P calls d') (e : Event) :
    d.After P calls (d'.log e) := ⟨h.calls_eq, h.answers⟩

theorem After.of_log {d d' : Device σ} {calls : List Call} {e : Event}
    (h : (d.log e).After P calls d') : d.After P calls d' := ⟨h.calls_eq, h.answers⟩

theorem After.untouched {d d' : Device σ} (h : d.After P [] d') :
    d'.calls = d.calls ∧ d'.provider = d.provider :=
  ⟨by simpa using h.calls_eq, h.answers.of_nil⟩

theorem after_allocate (P : Provider σ) (request : Allocation) (d : Device σ) :
    d.After P [.allocate request (d.allocate P request).1] (d.allocate P request).2 :=
  ⟨rfl, .allocate rfl (.nil _)⟩

theorem after_compute (P : Provider σ) (request : Computation) (d : Device σ) :
    d.After P [.compute request (d.compute P request).1] (d.compute P request).2 :=
  ⟨rfl, .compute rfl (.nil _)⟩

theorem after_release (P : Provider σ) (holding : Holding) (d : Device σ) :
    d.After P [.release holding] (d.release P holding) := by
  rcases h : P.release holding d.provider with ⟨found, s⟩
  simp only [release, h]
  split
  · exact ⟨rfl, .release h (.nil _)⟩
  · exact After.log ⟨rfl, .release h (.nil _)⟩ _

theorem after_drop (P : Provider σ) (holding : Holding) (d : Device σ) :
    d.After P [.release holding] (d.drop P holding) :=
  (after_release P holding (d.log (.releasing holding))).of_log

end Device

end AttestedImaging
