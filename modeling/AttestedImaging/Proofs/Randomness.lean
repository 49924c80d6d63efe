import AttestedImaging.Provider.Randomness

/-!
# Numbered draws

A key is the draw with the last number that was used up for it.
-/

namespace AttestedImaging.Randomness

open P256 (Scalar)

/-- The draw of this number, if it is a scalar. -/
def draw? (r : Randomness) (i : Nat) : Option Scalar :=
  match r.schedule[i]? with
  | some draw => Scalar.ofNat? draw
  | none => some (counted (i - r.schedule.length))

theorem draw?_congr {r r' : Randomness} (h : r.schedule = r'.schedule) (i : Nat) :
    r.draw? i = r'.draw? i := by
  rw [draw?, draw?, h]

theorem search_draws (r : Randomness) (i : Nat) : ∃ n,
    (search (i - r.schedule.length) (r.schedule.drop i)).2 = n + 1 ∧
    r.draw? (i + n) = some (search (i - r.schedule.length) (r.schedule.drop i)).1 := by
  generalize hdraws : r.schedule.drop i = draws
  induction draws generalizing i with
  | nil =>
    have hle := List.drop_eq_nil_iff.mp hdraws
    refine ⟨0, rfl, ?_⟩
    rw [draw?, List.getElem?_eq_none (by omega)]
    rfl
  | cons draw rest ih =>
    have hget : r.schedule[i]? = some draw := by
      rw [← List.head?_drop, hdraws, List.head?_cons]
    have hrest : r.schedule.drop (i + 1) = rest := by
      rw [← List.tail_drop, hdraws, List.tail_cons]
    rw [search]
    rcases hd : Scalar.ofNat? draw with _ | d
    · -- The search goes on within the schedule, where nothing has been counted yet.
      have hlt := (List.getElem?_eq_some_iff.mp hget).1
      have hpast : i + 1 - r.schedule.length = i - r.schedule.length := by omega
      obtain ⟨n, hn, hdraw⟩ := ih (i + 1) hrest
      rw [hpast] at hn hdraw
      refine ⟨n + 1, congrArg (· + 1) hn, ?_⟩
      rwa [show i + (n + 1) = i + 1 + n by omega]
    · refine ⟨0, rfl, ?_⟩
      rw [draw?, Nat.add_zero, hget]
      exact hd

theorem scalar_draws (r : Randomness) :
    ∃ n, r.scalar.2 = { r with drawn := r.drawn + n + 1 } ∧ r.draw? (r.drawn + n) = some r.scalar.1 := by
  obtain ⟨n, hn, hdraw⟩ := r.search_draws r.drawn
  have hscalar : r.scalar.2 = { r with drawn := r.drawn +
    (search (r.drawn - r.schedule.length) (r.schedule.drop r.drawn)).2 } := rfl
  exact ⟨n, by rw [hscalar, hn, Nat.add_assoc], hdraw⟩

end AttestedImaging.Randomness
