import CitedAnswers.Number.Shortest
import Mathlib.Algebra.Group.Nat.Defs

/-! # Shortest decimals are positive

The search for a shortest decimal begins at the power of ten of the first significant digit and goes
down from there.  On each grid that it looks at, a positive number has a positive multiple below it,
so the decimal that is found is positive (`shortest_pos`).
-/

namespace CitedAnswers.Number

/-! ## Grids -/

section Grids

variable {num den : Nat}

theorem gridBelow_pred_pos (positive : 0 < den) {exponent : Int}
    (coarse : 0 < (gridBelow num den exponent).coefficient) :
    0 < (gridBelow num den (exponent - 1)).coefficient := by
  -- From one place to the next either the denominator loses a factor of ten or the numerator
  -- gains one; which of them it is changes between the exponents 0 and -1.
  match exponent with
  | .ofNat 0 =>
    have atLeast : den ≤ num := by simpa [gridBelow, Nat.div_pos_iff, positive] using coarse
    exact Nat.div_pos (Nat.le_trans atLeast (Nat.le_mul_of_pos_right num (by decide))) positive
  | .ofNat (e + 1) =>
    have atLeast : den * 10 ^ (e + 1) ≤ num := (Nat.div_pos_iff.mp coarse).2
    have finer : den * 10 ^ e ≤ den * 10 ^ (e + 1) :=
      Nat.mul_le_mul_left den (Nat.pow_le_pow_right (by decide) (Nat.le_succ e))
    have below : Int.ofNat (e + 1) - 1 = Int.ofNat e := Int.add_sub_cancel (e : Int) 1
    rw [below]
    exact Nat.div_pos (Nat.le_trans finer atLeast) (Nat.mul_pos positive (Nat.pow_pos (by decide)))
  | .negSucc e =>
    have atLeast : den ≤ num * 10 ^ (e + 1) := (Nat.div_pos_iff.mp coarse).2
    have finer : num * 10 ^ (e + 1) ≤ num * 10 ^ (e + 1 + 1) :=
      Nat.mul_le_mul_left num (Nat.pow_le_pow_right (by decide) (Nat.le_succ _))
    rw [Int.negSucc_sub_one]
    exact Nat.div_pos (Nat.le_trans atLeast finer) positive

/-- The search for the first place finds one if there is one within its reach. -/
theorem le_mul_leadingPlace {fuel start : Nat} (reach : den ≤ num * 10 ^ (start + fuel)) :
    den ≤ num * 10 ^ leadingPlace num den fuel start := by
  induction fuel generalizing start with
  | zero => exact reach
  | succ fuel ih =>
    unfold leadingPlace
    by_cases here : den ≤ num * Nat.pow 10 start
    · rw [if_pos here]
      exact here
    · rw [if_neg here]
      exact ih (by rwa [Nat.succ_add_eq_add_succ])

theorem le_leadingPlace (fuel start : Nat) : start ≤ leadingPlace num den fuel start := by
  induction fuel generalizing start with
  | zero => exact Nat.le_refl start
  | succ fuel ih =>
    unfold leadingPlace
    split
    · exact Nat.le_refl start
    · exact Nat.le_trans (Nat.le_succ start) (ih (start + 1))

theorem ten_pow_le_of_length {n places : Nat} (pos : 0 < n)
    (digits : (Nat.toDigits 10 n).length = places + 1) : 10 ^ places ≤ n := by
  cases places with
  | zero => exact pos
  | succ places =>
    refine Nat.not_lt.mp fun small => ?_
    have short := (Nat.length_toDigits_le_iff (by decide) (Nat.succ_pos places)).mpr small
    omega

theorem gridBelow_leadingExponent_pos (pos : 0 < num) (positive : 0 < den) :
    0 < (gridBelow num den (leadingExponent num den)).coefficient := by
  unfold leadingExponent
  by_cases whole : den ≤ num
  · obtain ⟨places, digits⟩ : ∃ places, (Nat.toDigits 10 (num / den)).length = places + 1 :=
      Nat.exists_eq_add_one_of_ne_zero (Nat.ne_of_gt Nat.length_toDigits_pos)
    have reached : 10 ^ places * den ≤ num :=
      (Nat.le_div_iff_mul_le positive).mp
        (ten_pow_le_of_length (Nat.div_pos whole positive) digits)
    have leading : ((places + 1 : Nat) : Int) - 1 = Int.ofNat places :=
      Int.add_sub_cancel (places : Int) 1
    rw [Nat.mul_comm] at reached
    rw [if_pos whole, digits, leading]
    exact Nat.div_pos reached (Nat.mul_pos positive (Nat.pow_pos (by decide)))
  · obtain ⟨place, same⟩ : ∃ place, leadingPlace num den (den.log2 + 1) 1 = place + 1 :=
      Nat.exists_eq_add_one_of_ne_zero (Nat.ne_zero_of_lt (le_leadingPlace _ 1))
    -- A denominator has fewer decimal digits than bits, so the search does not run out.
    have reach : den ≤ num * 10 ^ (1 + (den.log2 + 1)) := by
      calc den ≤ 2 ^ (den.log2 + 1) := Nat.le_of_lt Nat.lt_log2_self
        _ ≤ 10 ^ (den.log2 + 1) := Nat.pow_le_pow_left (by decide) _
        _ ≤ 10 ^ (1 + (den.log2 + 1)) := Nat.pow_le_pow_right (by decide) (Nat.le_add_left _ 1)
        _ ≤ num * 10 ^ (1 + (den.log2 + 1)) := Nat.le_mul_of_pos_left _ pos
    have found := le_mul_leadingPlace reach
    rw [same] at found
    rw [if_neg whole, same]
    exact Nat.div_pos found positive

end Grids

/-! ## The search -/

section Search

variable {f : Format} {tie : Tie} {n : Nat}

theorem nearer_pos {num den : Nat} {below above : Decimal} (pos : 0 < below.coefficient)
    (more : 0 < above.coefficient) : 0 < (nearer tie num den below above).coefficient := by
  unfold nearer
  dsimp only
  repeat' split
  all_goals first | exact pos | exact more

theorem onGrid_pos {exponent : Int} {d : Decimal}
    (pos : 0 < (gridBelow n (Nat.pow 2 f.scale) exponent).coefficient)
    (found : onGrid f tie n exponent = some d) : 0 < d.coefficient := by
  unfold onGrid at found
  dsimp only at found
  split at found <;> cases found
  · exact nearer_pos pos (Nat.succ_pos _)
  · exact pos
  · exact Nat.succ_pos _

theorem refine_pos {fuel : Nat} {exponent : Int}
    (pos : 0 < (gridBelow n (Nat.pow 2 f.scale) exponent).coefficient) :
    0 < (refine f tie n fuel exponent).coefficient := by
  induction fuel generalizing exponent with
  | zero => exact pos
  | succ fuel ih =>
    unfold refine
    split
    · next found => exact onGrid_pos pos found
    · exact ih (gridBelow_pred_pos (Nat.pow_pos (by decide)) pos)

theorem stripZeros_pos {d : Decimal} (pos : 0 < d.coefficient) (fuel : Nat) :
    0 < (d.stripZeros fuel).coefficient := by
  induction fuel generalizing d with
  | zero => exact pos
  | succ fuel ih =>
    unfold Decimal.stripZeros
    split
    · refine ih ?_
      dsimp only
      omega
    · exact pos

theorem shortest_pos (f : Format) (tie : Tie) (pos : 0 < n) :
    0 < (shortest f tie n).coefficient :=
  stripZeros_pos
    (refine_pos (gridBelow_leadingExponent_pos pos (Nat.pow_pos (by decide)))) 20

end Search

end CitedAnswers.Number
