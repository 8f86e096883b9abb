import CitedAnswers.Number.Binary
import Mathlib.Tactic.Ring

/-! # Rounding to a format

Rounding is monotone: the nearest number to a greater quotient is no smaller (`nearest_mono`).  The
non-trivial case is that of two quotients with a power of two between them, where the grid changes;
neither is rounded past that power (`nearest_le_two_pow`, `two_pow_le_nearest`).

A natural is rounded as such, by dropping the bits that do not fit (`nearest_natural`).
-/

namespace CitedAnswers.Number

/-! ## Rounding quotients -/

section Quotients

variable {a b num den : Nat}

theorem div_le_roundToEven (num den : Nat) : num / den ≤ roundToEven num den := by
  unfold roundToEven
  dsimp only
  split
  · exact Nat.le_refl _
  · split
    · exact Nat.le_succ _
    · exact Nat.le_add_right _ _

theorem roundToEven_le_succ_div (num den : Nat) : roundToEven num den ≤ num / den + 1 := by
  unfold roundToEven
  dsimp only
  split
  · exact Nat.le_succ _
  · split
    · exact Nat.le_refl _
    · exact Nat.add_le_add_left (Nat.le_of_lt_succ (Nat.mod_lt _ (by decide))) _

theorem roundToEven_mono (le : a ≤ b) : roundToEven a den ≤ roundToEven b den := by
  rcases Nat.lt_or_eq_of_le (Nat.div_le_div_right (c := den) le) with apart | same
  · calc roundToEven a den ≤ a / den + 1 := roundToEven_le_succ_div a den
      _ ≤ b / den := apart
      _ ≤ roundToEven b den := div_le_roundToEven b den
  · -- Between the same two naturals the remainders decide.
    have remainders : a % den ≤ b % den := by
      have first := Nat.div_add_mod a den
      have second := Nat.div_add_mod b den
      rw [same] at first
      omega
    unfold roundToEven
    rw [same]
    dsimp only
    split_ifs <;> omega

theorem roundToEven_mul_right (num : Nat) {factor : Nat} (pos : 0 < factor) :
    roundToEven (num * factor) (den * factor) = roundToEven num den := by
  have quotient : num * factor / (den * factor) = num / den := Nat.mul_div_mul_right _ _ pos
  have remainder : 2 * (num * factor % (den * factor)) = 2 * (num % den) * factor := by
    rw [Nat.mul_mod_mul_right, Nat.mul_assoc]
  unfold roundToEven
  simp only [quotient, remainder, Nat.mul_lt_mul_right pos]

theorem roundToEven_mul_self (n : Nat) (pos : 0 < den) : roundToEven (n * den) den = n := by
  have noRemainder : 2 * (n * den % den) < den := by
    rw [Nat.mul_mod_left]
    exact pos
  unfold roundToEven
  dsimp only
  rw [if_pos noRemainder, Nat.mul_div_cancel _ pos]

end Quotients

/-! ## Rounding to a format -/

namespace Format

variable {f : Format} {num num' den : Nat}

theorem nearest_eq (f : Format) (num den : Nat) :
    f.nearest num den =
      roundToEven (num * 2 ^ f.scale)
        (den * 2 ^ f.excess (num * 2 ^ f.scale / den)) *
        2 ^ f.excess (num * 2 ^ f.scale / den) := rfl

/-- What lies below a power of two of at least the precision is not rounded past it. -/
theorem nearest_le_two_pow {place : Nat} (pos : 0 < den)
    (fits : f.excess (num * 2 ^ f.scale / den) ≤ place)
    (below : num * 2 ^ f.scale / den < 2 ^ place) : f.nearest num den ≤ 2 ^ place := by
  generalize quanta : num * 2 ^ f.scale = q at fits below
  rw [nearest_eq, quanta]
  generalize f.excess (q / den) = e at fits
  have step : 0 < den * 2 ^ e := Nat.mul_pos pos (Nat.two_pow_pos e)
  have split : 2 ^ place = 2 ^ (place - e) * 2 ^ e := by
    rw [← Nat.pow_add, Nat.sub_add_cancel fits]
  have bound : q ≤ 2 ^ (place - e) * (den * 2 ^ e) := by
    have small : q < 2 ^ place * den := (Nat.div_lt_iff_lt_mul pos).mp below
    rw [split] at small
    calc q ≤ 2 ^ (place - e) * 2 ^ e * den := Nat.le_of_lt small
      _ = 2 ^ (place - e) * (den * 2 ^ e) := by ring
  rw [split]
  apply Nat.mul_le_mul_right
  calc roundToEven q (den * 2 ^ e)
      ≤ roundToEven (2 ^ (place - e) * (den * 2 ^ e)) (den * 2 ^ e) := roundToEven_mono bound
    _ = 2 ^ (place - e) := roundToEven_mul_self _ step

/-- What begins at a power of two on its grid is not rounded below it. -/
theorem two_pow_le_nearest {place : Nat} (pos : 0 < den)
    (fits : f.excess (num * 2 ^ f.scale / den) ≤ place)
    (above : 2 ^ place ≤ num * 2 ^ f.scale / den) : 2 ^ place ≤ f.nearest num den := by
  generalize quanta : num * 2 ^ f.scale = q at fits above
  rw [nearest_eq, quanta]
  generalize f.excess (q / den) = e at fits
  have step : 0 < den * 2 ^ e := Nat.mul_pos pos (Nat.two_pow_pos e)
  have split : 2 ^ place = 2 ^ (place - e) * 2 ^ e := by
    rw [← Nat.pow_add, Nat.sub_add_cancel fits]
  have bound : 2 ^ (place - e) * (den * 2 ^ e) ≤ q := by
    have great : 2 ^ place * den ≤ q := (Nat.le_div_iff_mul_le pos).mp above
    rw [split] at great
    calc 2 ^ (place - e) * (den * 2 ^ e) = 2 ^ (place - e) * 2 ^ e * den := by ring
      _ ≤ q := great
  rw [split]
  apply Nat.mul_le_mul_right
  calc 2 ^ (place - e) = roundToEven (2 ^ (place - e) * (den * 2 ^ e)) (den * 2 ^ e) :=
        (roundToEven_mul_self _ step).symm
    _ ≤ roundToEven q (den * 2 ^ e) := roundToEven_mono bound

theorem excess_mono {m n : Nat} (le : m ≤ n) : f.excess m ≤ f.excess n := by
  have lengths : m.log2 ≤ n.log2 := by
    rcases Nat.eq_zero_or_pos m with rfl | pos
    · exact Nat.zero_le _
    · have nonzero : n ≠ 0 := (Nat.lt_of_lt_of_le pos le).ne'
      exact (Nat.le_log2 nonzero).mpr (Nat.le_trans (Nat.log2_self_le pos.ne') le)
  unfold excess
  omega

theorem excess_le_of_lt (precise : 0 < f.precision) {n place : Nat} (below : n < 2 ^ place) :
    f.excess n ≤ place := by
  unfold excess
  rcases Nat.eq_zero_or_pos n with rfl | pos
  · have : Nat.log2 0 = 0 := rfl
    omega
  · have : n.log2 < place := (Nat.log2_lt pos.ne').mpr below
    omega

theorem nearest_mono (precise : 0 < f.precision) (pos : 0 < den) (le : num ≤ num') :
    f.nearest num den ≤ f.nearest num' den := by
  have quanta : num * 2 ^ f.scale ≤ num' * 2 ^ f.scale := Nat.mul_le_mul_right _ le
  rcases Nat.lt_or_eq_of_le (excess_mono (f := f) (Nat.div_le_div_right (c := den) quanta)) with
    apart | same
  · -- The greater one begins at a power of two that the smaller one lies below.
    have fits : f.excess (num' * 2 ^ f.scale / den) ≤ (num' * 2 ^ f.scale / den).log2 := by
      unfold excess
      omega
    have longer : (num * 2 ^ f.scale / den).log2 < (num' * 2 ^ f.scale / den).log2 := by
      unfold excess at apart
      omega
    have nonzero : num' * 2 ^ f.scale / den ≠ 0 := by
      intro zero
      rw [zero] at longer
      exact absurd longer (Nat.not_lt_zero _)
    have above := Nat.log2_self_le nonzero
    have below : num * 2 ^ f.scale / den < 2 ^ (num' * 2 ^ f.scale / den).log2 :=
      Nat.lt_of_lt_of_le Nat.lt_log2_self (Nat.pow_le_pow_right (by decide) longer)
    exact Nat.le_trans (nearest_le_two_pow pos (Nat.le_trans (Nat.le_of_lt apart) fits) below)
      (two_pow_le_nearest pos fits above)
  · rw [nearest_eq, nearest_eq, same]
    apply Nat.mul_le_mul_right
    exact roundToEven_mono quanta

/-! ## Naturals -/

theorem log2_mul_two_pow {n : Nat} (nonzero : n ≠ 0) (k : Nat) :
    (n * 2 ^ k).log2 = n.log2 + k := by
  have above : 2 ^ n.log2 ≤ n := Nat.log2_self_le nonzero
  have below : n < 2 ^ (n.log2 + 1) := Nat.lt_log2_self
  rw [Nat.log2_eq_iff (Nat.mul_ne_zero nonzero (Nat.two_pow_pos k).ne')]
  constructor
  · rw [Nat.pow_add]
    exact Nat.mul_le_mul_right _ above
  · rw [Nat.add_right_comm, Nat.pow_add]
    exact Nat.mul_lt_mul_of_pos_right below (Nat.two_pow_pos k)

/-- A natural is rounded to a multiple of a power of two: of the one that takes up its bits past the
precision. -/
theorem nearest_natural (f : Format) (n : Nat) :
    f.nearest n 1 = roundToEven n (2 ^ f.excess n) * 2 ^ f.excess n * 2 ^ f.scale := by
  rw [nearest_eq, Nat.div_one, Nat.one_mul]
  rcases Nat.eq_zero_or_pos n with rfl | pos
  · simp [roundToEven]
  have length := log2_mul_two_pow pos.ne' f.scale
  by_cases long : f.precision ≤ n.log2 + 1
  · have split : f.excess (n * 2 ^ f.scale) = f.excess n + f.scale := by
      unfold excess
      omega
    rw [split, Nat.pow_add, roundToEven_mul_right _ (Nat.two_pow_pos _), Nat.mul_assoc]
  · -- All bits fit, so both sides are exact.
    have none : f.excess n = 0 := by
      unfold excess
      omega
    have split : 2 ^ f.scale = 2 ^ (f.scale - f.excess (n * 2 ^ f.scale)) *
        2 ^ f.excess (n * 2 ^ f.scale) := by
      rw [← Nat.pow_add, Nat.sub_add_cancel (by unfold excess; omega)]
    have self : roundToEven (n * 1) 1 = n := roundToEven_mul_self n Nat.one_pos
    rw [Nat.mul_one] at self
    generalize f.excess (n * 2 ^ f.scale) = e at split
    rw [none, Nat.pow_zero, Nat.mul_one, self, split, ← Nat.mul_assoc,
      roundToEven_mul_self _ (Nat.two_pow_pos e)]

theorem nearest_two_pow (precise : 0 < f.precision) (place : Nat) :
    f.nearest (2 ^ place) 1 = 2 ^ place * 2 ^ f.scale := by
  have fits : f.excess (2 ^ place) ≤ place := by
    unfold excess
    rw [Nat.log2_two_pow]
    omega
  have split : 2 ^ place = 2 ^ (place - f.excess (2 ^ place)) * 2 ^ f.excess (2 ^ place) := by
    rw [← Nat.pow_add, Nat.sub_add_cancel fits]
  rw [nearest_natural]
  generalize f.excess (2 ^ place) = e at split
  rw [split, roundToEven_mul_self _ (Nat.two_pow_pos e)]

theorem nearest_mul_right (pos : 0 < den) : f.nearest (num * den) den = f.nearest num 1 := by
  have quanta : num * den * 2 ^ f.scale = num * 2 ^ f.scale * den := Nat.mul_right_comm _ _ _
  rw [nearest_eq, nearest_eq, quanta, Nat.mul_div_cancel _ pos, Nat.div_one, Nat.mul_comm den,
    roundToEven_mul_right _ pos, Nat.one_mul]

end Format

/-! ## Whole numbers -/

theorem roundHalfUp_mul_self (n : Nat) {den : Nat} (pos : 0 < den) :
    roundHalfUp (n * den) den = n := by
  unfold roundHalfUp
  have split : 2 * (n * den) + den = den + n * (2 * den) := by ring
  rw [split, Nat.add_mul_div_right _ _ (Nat.mul_pos (by decide) pos),
    Nat.div_eq_of_lt (by omega), Nat.zero_add]

namespace Binary

variable {f : Format}

theorem ofQuotient_of_lt {num den : Nat} (negative : Bool)
    (inRange : f.nearest num den < 2 ^ f.span) :
    (ofQuotient negative num den : Binary f) = .finite negative (f.nearest num den) :=
  if_pos inRange

/-- A quotient that is not past the range is the nearest number to it. -/
theorem ofQuotient_of_not_isInfinite {negative : Bool} {num den : Nat}
    (finite : ¬(ofQuotient negative num den : Binary f).isInfinite = true) :
    (ofQuotient negative num den : Binary f) = .finite negative (f.nearest num den) := by
  unfold ofQuotient ofQuanta at finite ⊢
  split
  · rfl
  · next outside =>
    rw [if_neg outside] at finite
    exact absurd rfl finite

theorem ofQuotient_natural (precise : 0 < f.precision) {n place : Nat} (below : n < 2 ^ place)
    (wide : place + f.scale < f.span) :
    (ofQuotient false n 1 : Binary f) =
      .finite false (roundToEven n (2 ^ f.excess n) * 2 ^ f.excess n * 2 ^ f.scale) := by
  have quanta : n * 2 ^ f.scale / 1 < 2 ^ (place + f.scale) := by
    rw [Nat.div_one, Nat.pow_add]
    exact Nat.mul_lt_mul_of_pos_right below (Nat.two_pow_pos _)
  have inRange : f.nearest n 1 < 2 ^ f.span :=
    calc f.nearest n 1 ≤ 2 ^ (place + f.scale) :=
          Format.nearest_le_two_pow Nat.one_pos (Format.excess_le_of_lt precise quanta) quanta
      _ < 2 ^ f.span := Nat.pow_lt_pow_right (by decide) wide
  rw [← Format.nearest_natural]
  exact ofQuotient_of_lt false inRange

/-- What is negative counts as nothing. -/
theorem roundToWord_ofQuotient_true (num den : Nat) :
    (ofQuotient true num den : Binary f).roundToWord = 0 := by
  unfold ofQuotient ofQuanta
  split
  · rfl
  · rfl

/-- A natural that is rounded to a format and back to a word keeps the bits of its precision. -/
theorem roundToWord_natural (precise : 0 < f.precision) {n place : Nat} (below : n < 2 ^ place)
    (wide : place + f.scale < f.span) :
    (ofQuotient false n 1 : Binary f).roundToWord =
      min (roundToEven n (2 ^ f.excess n) * 2 ^ f.excess n) greatestWord := by
  rw [ofQuotient_natural precise below wide]
  exact congrArg (min · greatestWord) (roundHalfUp_mul_self _ (Nat.two_pow_pos _))

end Binary

end CitedAnswers.Number
