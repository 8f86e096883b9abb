import CitedAnswers.Proofs.Number.Rounding

/-! # Whole parts

The whole part of a number that was rounded to a format needs no more bits than the format has
(`fits_nearest_div`): a number large enough to lose bits is whole anyway.  So a whole part is
rounded to itself, and the words that numbers are cut off to (`IsCutOff`) are those that stay as
they are when they are rounded and cut off once more (`toWord_ofNat_of_isCutOff`).

The greatest word is one of them although it has too many bits.  It stands for all that is beyond
it, and is itself rounded beyond.
-/

namespace CitedAnswers.Number

namespace Format

variable {f : Format}

/-- All bits of the natural but zeros at its end find room in the precision. -/
def Fits (f : Format) (n : Nat) : Prop :=
  2 ^ f.excess n ∣ n

instance (f : Format) (n : Nat) : Decidable (f.Fits n) :=
  inferInstanceAs (Decidable (_ ∣ _))

theorem nearest_of_fits {n : Nat} (fits : f.Fits n) : f.nearest n 1 = n * 2 ^ f.scale := by
  obtain ⟨k, same⟩ := fits
  have product : n = k * 2 ^ f.excess n := same.trans (Nat.mul_comm _ _)
  have rounded : roundToEven n (2 ^ f.excess n) * 2 ^ f.excess n = n := by
    generalize 2 ^ f.excess n = step at product
    rw [product]
    rcases Nat.eq_zero_or_pos step with rfl | pos
    · rfl
    · rw [roundToEven_mul_self k pos]
  rw [nearest_natural, rounded]

theorem fits_mul_two_pow (precise : 0 < f.precision) {k : Nat} (small : k ≤ 2 ^ f.precision)
    (place : Nat) : f.Fits (k * 2 ^ place) := by
  unfold Fits
  rcases Nat.eq_zero_or_pos k with rfl | pos
  · rw [Nat.zero_mul]
    exact Nat.dvd_zero _
  rcases Nat.lt_or_eq_of_le small with below | rfl
  · have length : k.log2 < f.precision := (Nat.log2_lt pos.ne').mpr below
    have bound : f.excess (k * 2 ^ place) ≤ place := by
      unfold excess
      rw [log2_mul_two_pow pos.ne']
      omega
    exact Nat.dvd_mul_left_of_dvd (Nat.pow_dvd_pow 2 bound) k
  · -- Rounding up may have come to a power of two, which has one bit more but a single one.
    rw [← Nat.pow_add]
    refine Nat.pow_dvd_pow 2 ?_
    unfold excess
    rw [Nat.log2_two_pow]
    omega

theorem roundToEven_le_two_pow (f : Format) (num den : Nat) :
    roundToEven (num * 2 ^ f.scale) (den * 2 ^ f.excess (num * 2 ^ f.scale / den)) ≤
      2 ^ f.precision := by
  generalize num * 2 ^ f.scale = quanta
  have length : quanta / den < 2 ^ (f.precision + f.excess (quanta / den)) := by
    refine Nat.lt_of_lt_of_le Nat.lt_log2_self (Nat.pow_le_pow_right (by decide) ?_)
    unfold excess
    omega
  have kept : quanta / den / 2 ^ f.excess (quanta / den) < 2 ^ f.precision := by
    rw [Nat.pow_add] at length
    exact (Nat.div_lt_iff_lt_mul (Nat.two_pow_pos _)).mpr length
  rw [Nat.div_div_eq_div_mul] at kept
  exact Nat.le_trans (roundToEven_le_succ_div _ _) kept

/-- The whole part of a number that was rounded fits the format. -/
theorem fits_nearest_div (precise : 0 < f.precision) (num den : Nat) :
    f.Fits (f.nearest num den / 2 ^ f.scale) := by
  have bound := roundToEven_le_two_pow f num den
  rw [nearest_eq]
  generalize f.excess (num * 2 ^ f.scale / den) = e at bound
  generalize roundToEven (num * 2 ^ f.scale) (den * 2 ^ e) = k at bound
  -- Either the step was a whole number, or all bits of the whole part were kept.
  rcases Nat.le_total f.scale e with whole | parted
  · have split : k * 2 ^ e = k * 2 ^ (e - f.scale) * 2 ^ f.scale := by
      rw [Nat.mul_assoc, ← Nat.pow_add, Nat.sub_add_cancel whole]
    rw [split, Nat.mul_div_cancel _ (Nat.two_pow_pos _)]
    exact fits_mul_two_pow precise bound _
  · have split : 2 ^ f.scale = 2 ^ (f.scale - e) * 2 ^ e := by
      rw [← Nat.pow_add, Nat.sub_add_cancel parted]
    have fits := fits_mul_two_pow precise
      (Nat.le_trans (Nat.div_le_self k (2 ^ (f.scale - e))) bound) 0
    rw [Nat.pow_zero, Nat.mul_one] at fits
    rwa [split, Nat.mul_div_mul_right _ _ (Nat.two_pow_pos e)]

/-- The words that numbers of the format are cut off to. -/
def IsCutOff (f : Format) (n : Nat) : Prop :=
  n = Binary.greatestWord ∨ n < Binary.greatestWord ∧ f.Fits n

end Format

namespace Binary

open Format (IsCutOff)

variable {f : Format}

theorem isCutOff_zero (f : Format) : f.IsCutOff 0 :=
  .inr ⟨by decide, Nat.dvd_zero _⟩

theorem toWord_whole (n : Nat) :
    (Binary.finite false (n * 2 ^ f.scale) : Binary f).toWord = min n greatestWord :=
  congrArg (min · greatestWord) (Nat.mul_div_cancel n (Nat.two_pow_pos f.scale))

theorem toWord_zero : (Binary.finite false 0 : Binary f).toWord = 0 := by
  rw [toWord, Nat.zero_div, Nat.zero_min]

theorem isCutOff_ofQuotient (precise : 0 < f.precision) (negative : Bool) (num den : Nat) :
    f.IsCutOff (ofQuotient negative num den : Binary f).toWord := by
  have whole := Format.fits_nearest_div precise num den
  unfold ofQuotient ofQuanta
  split
  · cases negative with
    | true => exact isCutOff_zero f
    | false =>
      change f.IsCutOff (min (f.nearest num den / 2 ^ f.scale) greatestWord)
      rcases Nat.lt_or_ge (f.nearest num den / 2 ^ f.scale) greatestWord with below | beyond
      · rw [Nat.min_eq_left (Nat.le_of_lt below)]
        exact .inr ⟨below, whole⟩
      · rw [Nat.min_eq_right beyond]
        exact .inl rfl
  · cases negative with
    | true => exact isCutOff_zero f
    | false => exact .inl rfl

theorem isCutOff_ofDecimal (precise : 0 < f.precision) (coefficient : Nat) (exponent : Int) :
    f.IsCutOff (ofDecimal false coefficient exponent : Binary f).toWord := by
  have nothing : f.IsCutOff (Binary.finite false 0 : Binary f).toWord := by
    rw [toWord_zero]
    exact isCutOff_zero f
  unfold ofDecimal
  split
  · split
    · exact nothing
    · split
      · exact .inl rfl
      · exact isCutOff_ofQuotient precise false _ _
  · split
    · exact nothing
    · exact isCutOff_ofQuotient precise false _ _

/-- A word that a double was cut off to is rounded to a double that is cut off to it. -/
theorem toWord_ofNat_of_isCutOff {n : Nat} (cutOff : binary64.IsCutOff n) :
    (ofNat n : Binary64).toWord = n := by
  have word : n < 2 ^ 64 := by
    have greatest : greatestWord < 2 ^ 64 := by decide
    rcases cutOff with rfl | ⟨below, -⟩
    · exact greatest
    · exact Nat.lt_trans below greatest
  rw [ofNat, ofQuotient_natural (by decide) word (by decide), toWord_whole]
  rcases cutOff with rfl | ⟨below, fits⟩
  · -- The greatest word is next to a power of two, and is rounded up to it.
    decide
  · have exact := Format.nearest_of_fits fits
    rw [Format.nearest_natural] at exact
    rw [Nat.eq_of_mul_eq_mul_right (Nat.two_pow_pos _) exact]
    exact Nat.min_eq_left (Nat.le_of_lt below)

/-- A word that a double was cut off to is read back from its digits. -/
theorem toWord_ofDecimal_of_isCutOff {n : Nat} (cutOff : binary64.IsCutOff n) :
    (ofDecimal false n 0 : Binary64).toWord = n := by
  rcases Nat.eq_zero_or_pos n with rfl | pos
  · exact toWord_zero
  · have natural : (ofDecimal false n 0 : Binary64) = ofNat n := by
      change (if n = 0 then _ else if binary64.span < 3 * 0 then _
        else ofQuotient false (n * 1) 1 : Binary64) = _
      rw [if_neg pos.ne', if_neg (Nat.not_lt_zero _), Nat.mul_one]
      rfl
    rw [natural, toWord_ofNat_of_isCutOff cutOff]

end Binary

end CitedAnswers.Number
