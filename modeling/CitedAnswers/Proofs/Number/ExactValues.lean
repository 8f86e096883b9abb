import CitedAnswers.Proofs.Number.WholeParts
import Mathlib.Data.NNRat.Floor

/-! # Whole parts of exact values

A quotient is rounded by its value, however it is written: a greater one is never rounded to less
(`nearest_le_nearest`).  So every exact value has one number of whole seconds (`wholeSeconds`),
what is left of the double nearest to it when its fraction is cut off.

Up to `2 ^ 53` the naturals are doubles, and being monotone the whole seconds stay next to the whole
part of the value.  They may be one more, because a value close below a natural may be rounded to
it; this needs more digits than fifteen (`nearest_div_of_short`).
-/

namespace CitedAnswers.Number

/-! ## Rounding by value -/

namespace Format

variable {f : Format} {num num' den den' : Nat}

theorem nearest_mul_mul (num den : Nat) {factor : Nat} (pos : 0 < factor) :
    f.nearest (num * factor) (den * factor) = f.nearest num den := by
  have quanta : num * factor * 2 ^ f.scale = num * 2 ^ f.scale * factor := Nat.mul_right_comm _ _ _
  rw [nearest_eq, nearest_eq, quanta, Nat.mul_div_mul_right _ _ pos, Nat.mul_right_comm den,
    roundToEven_mul_right _ pos]

theorem nearest_le_nearest (precise : 0 < f.precision) (pos : 0 < den) (pos' : 0 < den')
    (le : num * den' ≤ num' * den) : f.nearest num den ≤ f.nearest num' den' :=
  calc f.nearest num den = f.nearest (num * den') (den * den') := (nearest_mul_mul num den pos').symm
    _ ≤ f.nearest (num' * den) (den * den') := nearest_mono precise (Nat.mul_pos pos pos') le
    _ = f.nearest (num' * den) (den' * den) := by rw [Nat.mul_comm den den']
    _ = f.nearest num' den' := nearest_mul_mul num' den' pos

/-- What lies below half a quantum is rounded to nothing. -/
theorem nearest_of_tiny (precise : 0 < f.precision) (tiny : 2 * (num * 2 ^ f.scale) < den) :
    f.nearest num den = 0 := by
  have less : num * 2 ^ f.scale < den := by omega
  have noExcess : f.excess 0 = 0 := by
    have : Nat.log2 0 = 0 := rfl
    unfold excess
    omega
  rw [nearest_eq, Nat.div_eq_of_lt less, noExcess, Nat.pow_zero, Nat.mul_one, Nat.mul_one]
  unfold roundToEven
  dsimp only
  rw [Nat.mod_eq_of_lt less, if_pos tiny, Nat.div_eq_of_lt less]

/-- A step of the grid on which a short quotient lies, taken `den` times, is at most one. -/
theorem mul_two_pow_excess_le (precise : 0 < f.precision) (pos : 0 < den)
    (short : num ≤ 2 ^ (f.precision - 1)) (coarse : den ≤ 2 ^ f.scale) :
    den * 2 ^ f.excess (num * 2 ^ f.scale / den) ≤ 2 ^ f.scale := by
  generalize quotient : num * 2 ^ f.scale / den = n
  rcases Nat.eq_zero_or_pos (f.excess n) with none | long
  · rw [none, Nat.pow_zero, Nat.mul_one]
    exact coarse
  · -- Bits are in excess only when the quotient has all the bits of the precision.
    have length : n.log2 = f.excess n + (f.precision - 1) := by
      unfold excess at long ⊢
      omega
    have nonzero : n ≠ 0 := by
      rintro rfl
      have : Nat.log2 0 = 0 := rfl
      omega
    have reached : 2 ^ (f.excess n + (f.precision - 1)) * den ≤ num * 2 ^ f.scale := by
      rw [← length, ← Nat.le_div_iff_mul_le pos, quotient]
      exact Nat.log2_self_le nonzero
    refine Nat.le_of_mul_le_mul_right ?_ (Nat.two_pow_pos (f.precision - 1))
    calc den * 2 ^ f.excess n * 2 ^ (f.precision - 1)
        = 2 ^ (f.excess n + (f.precision - 1)) * den := by rw [Nat.pow_add]; ring
      _ ≤ num * 2 ^ f.scale := reached
      _ ≤ 2 ^ f.scale * 2 ^ (f.precision - 1) := by
        rw [Nat.mul_comm (2 ^ f.scale)]
        exact Nat.mul_le_mul_right _ short

/-- With a whole step of the grid between a quotient and the next natural, it is not rounded up
to it. -/
theorem nearest_lt_of_step (pos : 0 < den)
    (step : den * 2 ^ f.excess (num * 2 ^ f.scale / den) ≤ 2 ^ f.scale) :
    f.nearest num den < (num / den + 1) * 2 ^ f.scale := by
  rw [nearest_eq]
  generalize f.excess (num * 2 ^ f.scale / den) = e at step
  have fine : e ≤ f.scale := by
    refine (Nat.pow_le_pow_iff_right (by decide : 1 < 2)).mp ?_
    exact Nat.le_trans (Nat.le_mul_of_pos_left _ pos) step
  have split : 2 ^ f.scale = 2 ^ (f.scale - e) * 2 ^ e := by
    rw [← Nat.pow_add, Nat.sub_add_cancel fine]
  have next : num + 1 ≤ (num / den + 1) * den := by
    rw [Nat.mul_comm]
    exact Nat.lt_mul_div_succ num pos
  have apart : num * 2 ^ f.scale + den * 2 ^ e ≤
      (num / den + 1) * 2 ^ (f.scale - e) * (den * 2 ^ e) :=
    calc num * 2 ^ f.scale + den * 2 ^ e ≤ (num + 1) * 2 ^ f.scale := by
          rw [Nat.add_mul, Nat.one_mul]
          exact Nat.add_le_add_left step _
      _ ≤ (num / den + 1) * den * 2 ^ f.scale := Nat.mul_le_mul_right _ next
      _ = (num / den + 1) * 2 ^ (f.scale - e) * (den * 2 ^ e) := by rw [split]; ring
  -- The next natural is a point of the grid, and the quotient is not beyond the point before it.
  obtain ⟨before, same⟩ : ∃ before, (num / den + 1) * 2 ^ (f.scale - e) = before + 1 :=
    Nat.exists_eq_add_one_of_ne_zero
      (Nat.mul_pos (Nat.succ_pos _) (Nat.two_pow_pos _)).ne'
  rw [same, Nat.add_mul, Nat.one_mul, Nat.add_le_add_iff_right] at apart
  have rounded : roundToEven (num * 2 ^ f.scale) (den * 2 ^ e) ≤ before :=
    calc roundToEven (num * 2 ^ f.scale) (den * 2 ^ e)
        ≤ roundToEven (before * (den * 2 ^ e)) (den * 2 ^ e) := roundToEven_mono apart
      _ = before := roundToEven_mul_self _ (Nat.mul_pos pos (Nat.two_pow_pos e))
  calc roundToEven (num * 2 ^ f.scale) (den * 2 ^ e) * 2 ^ e
      < (before + 1) * 2 ^ e :=
        Nat.mul_lt_mul_of_pos_right (Nat.lt_succ_of_le rounded) (Nat.two_pow_pos e)
    _ = (num / den + 1) * 2 ^ f.scale := by rw [← same, Nat.mul_assoc, ← split]

/-- A quotient whose whole part fits is not rounded below it. -/
theorem le_nearest_of_fits (precise : 0 < f.precision) (pos : 0 < den)
    (fits : f.Fits (num / den)) : num / den * 2 ^ f.scale ≤ f.nearest num den := by
  have below : num / den * den ≤ num * 1 := by
    rw [Nat.mul_one]
    exact Nat.div_mul_le_self num den
  rw [← nearest_of_fits fits]
  exact nearest_le_nearest precise Nat.one_pos pos below

theorem fits_of_le (precise : 0 < f.precision) {n : Nat} (small : n ≤ 2 ^ f.precision) :
    f.Fits n := by
  have whole := fits_mul_two_pow precise small 0
  rwa [Nat.pow_zero, Nat.mul_one] at whole

/-- A quotient that is short enough is rounded within its whole part. -/
theorem nearest_div_of_short (precise : 0 < f.precision) (pos : 0 < den)
    (short : num ≤ 2 ^ (f.precision - 1)) (coarse : den ≤ 2 ^ f.scale) :
    f.nearest num den / 2 ^ f.scale = num / den := by
  have one : 0 < 2 ^ f.scale := Nat.two_pow_pos _
  have kept : num / den ≤ 2 ^ f.precision :=
    calc num / den ≤ num := Nat.div_le_self _ _
      _ ≤ 2 ^ (f.precision - 1) := short
      _ ≤ 2 ^ f.precision := Nat.pow_le_pow_right (by decide) (Nat.sub_le _ _)
  apply Nat.le_antisymm
  · refine Nat.le_of_lt_succ ((Nat.div_lt_iff_lt_mul one).mpr ?_)
    exact nearest_lt_of_step pos (mul_two_pow_excess_le precise pos short coarse)
  · rw [Nat.le_div_iff_mul_le one]
    exact le_nearest_of_fits precise pos (fits_of_le precise kept)

end Format

/-! ## Words -/

namespace Binary

variable {f : Format}

/-- A format that reaches beyond all words loses nothing to its infinity. -/
theorem toWord_ofQuotient (wide : f.scale + 64 ≤ f.span) (num den : Nat) :
    (ofQuotient false num den : Binary f).toWord =
      min (f.nearest num den / 2 ^ f.scale) greatestWord := by
  unfold ofQuotient ofQuanta
  split
  · rfl
  · next beyond =>
    have great : 2 ^ (f.scale + 64) ≤ f.nearest num den :=
      Nat.le_trans (Nat.pow_le_pow_right (by decide) wide) (Nat.not_lt.mp beyond)
    have words : greatestWord ≤ f.nearest num den / 2 ^ f.scale := by
      rw [Nat.pow_add, Nat.mul_comm] at great
      exact Nat.le_trans (by decide : greatestWord ≤ 2 ^ 64)
        ((Nat.le_div_iff_mul_le (Nat.two_pow_pos _)).mpr great)
    rw [Nat.min_eq_right words]
    rfl

/-- The value of a decimal with `places` digits behind its point is rounded as a quotient; where no
quotient is formed, it is rounded to nothing. -/
theorem ofDecimal_neg (precise : 0 < f.precision) (coefficient places : Nat) :
    (ofDecimal false coefficient (-(places : Int)) : Binary f) =
      ofQuotient false coefficient (10 ^ places) := by
  have nothing : ∀ {den : Nat}, f.nearest coefficient den = 0 →
      (Binary.finite false 0 : Binary f) = ofQuotient false coefficient den := by
    intro den zero
    rw [ofQuotient_of_lt false (by rw [zero]; exact Nat.two_pow_pos _), zero]
  cases places with
  | zero =>
    change (if coefficient = 0 then _ else if f.span < 3 * 0 then _
      else ofQuotient false (coefficient * 1) 1 : Binary f) = _
    rw [Nat.mul_one]
    split
    · next zero =>
      exact nothing (Format.nearest_of_tiny precise (by simp [zero]))
    · rfl
  | succ places =>
    change (if coefficient.log2 + f.scale + 2 < 3 * (places + 1) then _
      else ofQuotient false coefficient (10 ^ (places + 1)) : Binary f) = _
    split
    · next small =>
      apply nothing
      apply Format.nearest_of_tiny precise
      calc 2 * (coefficient * 2 ^ f.scale)
          < 2 * (2 ^ (coefficient.log2 + 1) * 2 ^ f.scale) :=
            Nat.mul_lt_mul_of_pos_left
              (Nat.mul_lt_mul_of_pos_right Nat.lt_log2_self (Nat.two_pow_pos _)) (by decide)
        _ = 2 ^ (coefficient.log2 + f.scale + 2) := by ring
        _ ≤ 2 ^ (3 * (places + 1)) := Nat.pow_le_pow_right (by decide) (Nat.le_of_lt small)
        _ = 8 ^ (places + 1) := Nat.pow_mul 2 3 (places + 1)
        _ ≤ 10 ^ (places + 1) := Nat.pow_le_pow_left (by decide) _
    · rfl

end Binary

/-! ## Whole seconds -/

/-- The whole seconds of an exact value: the double nearest to it, cut off to a word. -/
def wholeSeconds (value : ℚ≥0) : Nat :=
  (Binary.ofQuotient false value.num value.den : Binary64).toWord

section WholeSeconds

variable {value value' : ℚ≥0}

theorem wholeSeconds_eq (value : ℚ≥0) :
    wholeSeconds value =
      min (binary64.nearest value.num value.den / 2 ^ binary64.scale) Binary.greatestWord :=
  Binary.toWord_ofQuotient (by decide) value.num value.den

theorem wholeSeconds_mono (le : value ≤ value') : wholeSeconds value ≤ wholeSeconds value' := by
  have cross : value.num * value'.den ≤ value'.num * value.den := by
    rw [← NNRat.num_div_den value, ← NNRat.num_div_den value'] at le
    rw [div_le_div_iff₀ (by exact_mod_cast value.den_pos) (by exact_mod_cast value'.den_pos)] at le
    exact_mod_cast le
  rw [wholeSeconds_eq, wholeSeconds_eq]
  apply min_le_min_right
  exact Nat.div_le_div_right
    (Format.nearest_le_nearest (by decide) value.den_pos value'.den_pos cross)

/-- The whole seconds of a quotient, which need not be in lowest terms. -/
theorem wholeSeconds_div (num : Nat) {den : Nat} (pos : 0 < den) :
    wholeSeconds (num / den) = (Binary.ofQuotient false num den : Binary64).toWord := by
  generalize same : (num / den : ℚ≥0) = value
  have cross : num * value.den = value.num * den := by
    rw [← NNRat.num_div_den value,
      div_eq_div_iff (by exact_mod_cast pos.ne') (by exact_mod_cast value.den_ne_zero)] at same
    exact_mod_cast same
  have nearest : binary64.nearest num den = binary64.nearest value.num value.den :=
    Nat.le_antisymm
      (Format.nearest_le_nearest (by decide) pos value.den_pos cross.le)
      (Format.nearest_le_nearest (by decide) value.den_pos pos cross.ge)
  rw [wholeSeconds_eq, Binary.toWord_ofQuotient (by decide), nearest]

theorem wholeSeconds_natCast {n : Nat} (small : n ≤ 2 ^ 53) : wholeSeconds n = n := by
  have fits : binary64.Fits n := Format.fits_of_le (by decide) small
  have word : n ≤ Binary.greatestWord := Nat.le_trans small (by decide)
  rw [wholeSeconds_eq, NNRat.num_natCast, NNRat.den_natCast, Format.nearest_of_fits fits,
    Nat.mul_div_cancel _ (Nat.two_pow_pos _), Nat.min_eq_left word]

theorem wholeSeconds_of_lt (small : value < 2 ^ 53) :
    ⌊value⌋₊ ≤ wholeSeconds value ∧ wholeSeconds value ≤ ⌊value⌋₊ + 1 := by
  have below : ⌊value⌋₊ < 2 ^ 53 := (Nat.floor_lt value.2).mpr (by exact_mod_cast small)
  constructor
  · calc ⌊value⌋₊ = wholeSeconds (⌊value⌋₊ : Nat) := (wholeSeconds_natCast below.le).symm
      _ ≤ wholeSeconds value := wholeSeconds_mono (Nat.floor_le value.2)
  · have above : value ≤ (⌊value⌋₊ + 1 : Nat) := by
      push_cast
      exact (Nat.lt_floor_add_one value).le
    calc wholeSeconds value ≤ wholeSeconds (⌊value⌋₊ + 1 : Nat) := wholeSeconds_mono above
      _ = ⌊value⌋₊ + 1 := wholeSeconds_natCast below

theorem wholeSeconds_of_ge (great : 2 ^ 64 ≤ value) : wholeSeconds value = 2 ^ 64 - 1 := by
  have least : wholeSeconds (2 ^ 64 : Nat) = Binary.greatestWord := by
    rw [wholeSeconds_eq, NNRat.num_natCast, NNRat.den_natCast,
      Format.nearest_two_pow (by decide), Nat.mul_div_cancel _ (Nat.two_pow_pos _)]
    decide
  apply Nat.le_antisymm
  · rw [wholeSeconds_eq]
    exact Nat.min_le_right _ _
  · calc 2 ^ 64 - 1 = wholeSeconds (2 ^ 64 : Nat) := least.symm
      _ ≤ wholeSeconds value := wholeSeconds_mono (by exact_mod_cast great)

/-- A decimal of at most fifteen digits has the whole seconds of its whole part. -/
theorem wholeSeconds_of_short {coefficient places : Nat} (digits : coefficient < 10 ^ 15)
    (behind : places ≤ 15) :
    wholeSeconds (coefficient / (10 ^ places : Nat)) =
      ⌊(coefficient / (10 ^ places : Nat) : ℚ≥0)⌋₊ := by
  have pos : 0 < 10 ^ places := Nat.pow_pos (by decide)
  have short : coefficient ≤ 2 ^ (binary64.precision - 1) :=
    Nat.le_trans digits.le (by decide)
  have coarse : 10 ^ places ≤ 2 ^ binary64.scale :=
    calc 10 ^ places ≤ 10 ^ 15 := Nat.pow_le_pow_right (by decide) behind
      _ ≤ 2 ^ 50 := by decide
      _ ≤ 2 ^ binary64.scale := Nat.pow_le_pow_right (by decide) (by decide)
  have word : coefficient / 10 ^ places ≤ Binary.greatestWord :=
    calc coefficient / 10 ^ places ≤ coefficient := Nat.div_le_self _ _
      _ ≤ 10 ^ 15 := digits.le
      _ ≤ Binary.greatestWord := by decide
  rw [wholeSeconds_div coefficient pos, Binary.toWord_ofQuotient (by decide),
    Format.nearest_div_of_short (by decide) pos short coarse, Nat.min_eq_left word,
    NNRat.floor_natCast_div_natCast]

end WholeSeconds

end CitedAnswers.Number
