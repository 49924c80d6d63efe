import AttestedImaging.Proofs.Application.Sessions

/-!
# The history of a run

A run request by request: what was asked and answered, and the application before and after. Where a
property compares one request of a run with another, it is said of the moments of a history.
-/

namespace AttestedImaging.Application

variable {σ : Type}

/-- One request of a run with its reply, and the application before and after it. -/
structure Moment (σ : Type) where
  before : Application σ
  request : Request
  reply : Reply
  after : Application σ

def moment (P : Provider σ) (request : Request) (a : Application σ) : Moment σ :=
  ⟨a, request, (a.step P request).1, (a.step P request).2⟩

/-- The moments of a run, the first one first. -/
def history (P : Provider σ) : List Request → Application σ → List (Moment σ)
  | [], _ => []
  | request :: rest, a => moment P request a :: history P rest (a.step P request).2

variable {P : Provider σ} {requests : List Request} {a : Application σ}

/-! ## Parts of a history -/

theorem run_append (P : Provider σ) (earlier later : List Request) (a : Application σ) :
    (a.run P (earlier ++ later)).2 = ((a.run P earlier).2.run P later).2 := by
  induction earlier generalizing a with
  | nil => rfl
  | cons request rest ih => exact ih (a.step P request).2

theorem history_append (P : Provider σ) (earlier later : List Request) (a : Application σ) :
    history P (earlier ++ later) a = history P earlier a ++ history P later (a.run P earlier).2 := by
  induction earlier generalizing a with
  | nil => rfl
  | cons request rest ih =>
    rw [List.cons_append, history, ih]
    rfl

theorem of_history_eq_append {past rest : List (Moment σ)} (h : history P requests a = past ++ rest) :
    ∃ earlier later, requests = earlier ++ later ∧ past = history P earlier a ∧
      rest = history P later (a.run P earlier).2 := by
  induction past generalizing requests a with
  | nil => exact ⟨[], requests, rfl, rfl, h.symm⟩
  | cons m past ih =>
    cases requests with
    | nil => cases h
    | cons request requests =>
      obtain ⟨rfl, hrest⟩ := List.cons.inj h
      obtain ⟨earlier, later, rfl, rfl, rfl⟩ := ih hrest
      exact ⟨request :: earlier, later, rfl, rfl, rfl⟩

theorem of_history_eq_cons {m : Moment σ} {rest : List (Moment σ)}
    (h : history P requests a = m :: rest) : ∃ request later, requests = request :: later ∧
      m = moment P request a ∧ rest = history P later m.after := by
  cases requests with
  | nil => cases h
  | cons request later =>
    obtain ⟨rfl, rfl⟩ := List.cons.inj h
    exact ⟨request, later, rfl, rfl, rfl⟩

theorem of_history_eq {past rest : List (Moment σ)} {m : Moment σ}
    (h : history P requests a = past ++ m :: rest) : ∃ earlier request later,
      requests = earlier ++ request :: later ∧ past = history P earlier a ∧
      m = moment P request (a.run P earlier).2 ∧ rest = history P later m.after := by
  obtain ⟨earlier, later, rfl, rfl, hrest⟩ := of_history_eq_append h
  obtain ⟨request, later, rfl, hm, hrest⟩ := of_history_eq_cons hrest.symm
  exact ⟨earlier, request, later, rfl, rfl, hm, hrest⟩

theorem of_mem_history {m : Moment σ} (h : m ∈ history P requests a) : ∃ earlier request later,
    requests = earlier ++ request :: later ∧ m = moment P request (a.run P earlier).2 := by
  obtain ⟨past, rest, hsplit⟩ := List.append_of_mem h
  obtain ⟨earlier, request, later, hrequests, -, hm, -⟩ := of_history_eq hsplit
  exact ⟨earlier, request, later, hrequests, hm⟩

/-! ## Moments -/

theorem moment_answered {request : Request} {status : Status} {ps' : Parameters}
    (h : (moment P request a).reply = .answered status ps') : ∃ number command ps,
      request = .invoke number command ps ∧
      a.invoke P number command ps = (some (status, ps'), (moment P request a).after) := by
  cases request with
  | invoke number command ps =>
    refine ⟨number, command, ps, rfl, ?_⟩
    simp only [moment, step] at h ⊢
    rcases hinvoke : a.invoke P number command ps with ⟨_ | ⟨status', qs⟩, a'⟩ <;>
      rw [hinvoke] at h <;> cases h
    rfl
  | openSession kinds =>
    simp only [moment, step] at h
    split at h <;> cases h
  | close number =>
    simp only [moment, step] at h
    split at h <;> cases h
  | drop number =>
    simp only [moment, step] at h
    split at h <;> cases h

end AttestedImaging.Application
