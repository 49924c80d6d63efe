import AttestedImaging.Crypto.P256

/-!
# Random draws for keys

A key is a draw of 256 bits that is a scalar of the curve; other draws are passed over. The draws
are numbered from 0. Those of a schedule come first, and after them the numbers 1, 2, 3 and so on,
so a scalar always comes up.
-/

namespace AttestedImaging

open P256 (Scalar order)

structure Randomness where
  schedule : List Nat := []
  drawn : Nat := 0

namespace Randomness

/-- Counts up from 1 to the greatest scalar, then again from 1. -/
def counted (i : Nat) : Scalar :=
  ⟨i % (order - 1) + 1, Nat.succ_pos _, by
    have := Nat.mod_lt i (show 0 < order - 1 by decide)
    have : order - 1 + 1 = order := by decide
    omega⟩

/-- The first scalar among the draws from number `i` on, if `draws` are those left in the schedule
and `past` numbers after it have been counted. The second component is the number of draws. -/
def search (past : Nat) : List Nat → Scalar × Nat
  | [] => (counted past, 1)
  | draw :: rest =>
    match Scalar.ofNat? draw with
    | some d => (d, 1)
    | none => let (d, n) := search past rest; (d, n + 1)

/-- Draws until a scalar comes up. -/
def scalar (r : Randomness) : Scalar × Randomness :=
  let (d, n) := search (r.drawn - r.schedule.length) (r.schedule.drop r.drawn)
  (d, { r with drawn := r.drawn + n })

end Randomness

end AttestedImaging
