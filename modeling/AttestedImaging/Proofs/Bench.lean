import AttestedImaging.Proofs.Calls
import AttestedImaging.Proofs.Device
import AttestedImaging.Provider.Bench

/-!
# Runs on a bench

Each step makes the calls that its reply tells of, and no others. A guard calls nothing while it is
held, and it is given up once: over a run, the drops of a guard and what is left of it come to the one
guard that was made.
-/

namespace AttestedImaging.Bench

variable {σ : Type}

/-! ## Calls -/

/-- The calls that a step makes if it gets this reply. -/
def calls : Step × Reply → List Call
  | (.allocate request, .allocated answer) => [.allocate request answer]
  | (.compute request, .computed answer) => [.compute request answer]
  | (.release x, .released) => [.release x]
  | (.drop _, .dropped x) => [.release x]
  | _ => []

theorem step_after (P : Provider σ) (s : Step) (b : Bench σ) :
    b.device.After P (calls (s, (b.step P s).1)) (b.step P s).2.device := by
  cases s with
  | allocate request => exact Device.after_allocate P request b.device
  | compute request => exact Device.after_compute P request b.device
  | release x => exact Device.after_release P x b.device
  | guard x => exact .refl _
  | drop number =>
    rcases h : b.guard? number with _ | x
    · simp only [step, h]
      exact .refl _
    · simp only [step, h]
      exact Device.after_drop P x b.device

theorem run_after (P : Provider σ) (steps : List Step) (b : Bench σ) :
    b.device.After P ((steps.zip (b.run P steps).1).flatMap calls) (b.run P steps).2.device := by
  induction steps generalizing b with
  | nil => exact .refl _
  | cons s rest ih => exact (step_after P s b).trans (ih (b.step P s).2)

theorem run_make (P : Provider σ) (steps : List Step) (provider : σ) :
    ((make provider).run P steps).2.device.calls =
        (steps.zip ((make provider).run P steps).1).flatMap calls ∧
      P.Answers provider ((make provider).run P steps).2.device.calls
        ((make provider).run P steps).2.device.provider := by
  have hafter := run_after P steps (make provider)
  have hcalls : ((make provider).run P steps).2.device.calls =
      (steps.zip ((make provider).run P steps).1).flatMap calls := hafter.calls_eq
  rw [hcalls]
  exact ⟨rfl, hafter.answers⟩

theorem run_append (P : Provider σ) (earlier later : List Step) (b : Bench σ) :
    (b.run P (earlier ++ later)).2 = ((b.run P earlier).2.run P later).2 := by
  induction earlier generalizing b with
  | nil => rfl
  | cons s rest ih => exact ih (b.step P s).2

/-! ## Guards -/

def Step.made? : Step → Option Holding
  | .guard x => some x
  | _ => none

/-- The holding that the guard of this number gives up. -/
def dropped? (number : Nat) : Step × Reply → Option Holding
  | (.drop n, .dropped x) => if n = number then some x else none
  | _ => none

/-- A step keeps the account of each guard: it is there as it was, or it is new, or it is dropped. -/
theorem step_guard (P : Provider σ) (s : Step) (b : Bench σ) (later : List (Option Holding))
    (number : Nat) :
    (dropped? number (s, (b.step P s).1)).toList ++
        (((b.step P s).2.guards ++ later)[number]?.join).toList =
      ((b.guards ++ s.made?.toList.map some ++ later)[number]?.join).toList := by
  cases s with
  | allocate request => simp [step, dropped?, Step.made?]
  | compute request => simp [step, dropped?, Step.made?]
  | release x => simp [step, dropped?, Step.made?]
  | guard x => simp [step, dropped?, Step.made?]
  | drop n =>
    rcases h : b.guard? n with _ | x
    · simp [step, h, dropped?, Step.made?]
    · have hget : b.guards[n]? = some (some x) := Option.join_eq_some_iff.mp h
      obtain ⟨hlt, -⟩ := List.getElem?_eq_some_iff.mp hget
      simp only [step, h, dropped?, Step.made?, Option.toList_none, List.map_nil, List.append_nil]
      by_cases hn : n = number
      · subst hn
        rw [if_pos rfl, List.getElem?_append_left (by simpa using hlt),
          List.getElem?_set_self hlt, List.getElem?_append_left hlt, hget]
        rfl
      · rw [if_neg hn, List.getElem?_append, List.getElem?_append, List.length_set,
          List.getElem?_set_ne hn]
        rfl

theorem run_guard (P : Provider σ) (steps : List Step) (b : Bench σ) (number : Nat) :
    (steps.zip (b.run P steps).1).filterMap (dropped? number) ++
        ((b.run P steps).2.guard? number).toList =
      ((b.guards ++ (steps.filterMap Step.made?).map some)[number]?.join).toList := by
  -- The guards that are made later stand at the places after those that are there.
  induction steps generalizing b with
  | nil => simp [run, guard?]
  | cons s rest ih =>
    have hstep := step_guard P s b ((rest.filterMap Step.made?).map some) number
    rw [← ih (b.step P s).2, ← List.append_assoc] at hstep
    have hdropped : ((s :: rest).zip (b.run P (s :: rest)).1).filterMap (dropped? number) =
        (dropped? number (s, (b.step P s).1)).toList ++
          (rest.zip ((b.step P s).2.run P rest).1).filterMap (dropped? number) := by
      simp only [run, List.zip_cons_cons, List.filterMap_cons]
      cases dropped? number (s, (b.step P s).1) <;> rfl
    have hmade : (s :: rest).filterMap Step.made? =
        s.made?.toList ++ rest.filterMap Step.made? := by
      rw [List.filterMap_cons]
      cases s.made? <;> rfl
    rw [hdropped, hmade, List.map_append, ← List.append_assoc b.guards]
    exact hstep

theorem run_make_guard (P : Provider σ) (steps : List Step) (provider : σ) (number : Nat) :
    (steps.zip ((make provider).run P steps).1).filterMap (dropped? number) ++
        (((make provider).run P steps).2.guard? number).toList =
      (steps.filterMap Step.made?)[number]?.toList := by
  rw [run_guard, make, List.nil_append, List.getElem?_map]
  cases (steps.filterMap Step.made?)[number]? <;> rfl

theorem finish_calls (P : Provider σ) (b : Bench σ) :
    (b.finish P).device.calls = b.device.calls ++ Call.releases (b.guards.filterMap id) ∧
      ∀ number, (b.finish P).guard? number = none := by
  have hfold : ∀ (xs : List Holding) (d : Device σ),
      (xs.foldl (fun d x => d.drop P x) d).calls = d.calls ++ Call.releases xs := by
    intro xs
    induction xs with
    | nil => intro d; simp
    | cons x rest ih =>
      intro d
      rw [List.foldl_cons, ih, (Device.after_drop P x d).calls_eq, List.append_assoc]
      rfl
  refine ⟨hfold _ _, fun number => ?_⟩
  simp only [guard?, finish, List.getElem?_map]
  cases b.guards[number]? <;> rfl

end AttestedImaging.Bench
