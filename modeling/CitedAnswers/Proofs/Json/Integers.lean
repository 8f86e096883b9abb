import CitedAnswers.Proofs.Json.Documents
import CitedAnswers.Proofs.Json.Trees
import CitedAnswers.Proofs.Number.Decimals
import CitedAnswers.Proofs.Number.Rounding

/-! # Integers in documents

An integer is written by its digits (`writes_integer`) and read as their value.  Up to 64 bits of
them it is a whole number, and past the signed range a negative one is a double (`value_natural`,
`value_negative`).  Of a longer one the digits that fit are taken and scaled by a power of ten for
those that do not; such a double is no smaller than `2 ^ 64`, although three roundings have gone
into it, so it counts as the greatest word, or as zero where it is negative (`roundToWord_of_long`).
-/

namespace CitedAnswers.Json

open CitedAnswers.Number
open CitedAnswers.Text (Symbol symbols)

/-! ## Digits -/

def digitsOf (n : Nat) : List Nat :=
  (Nat.toDigits 10 n).map digitValue

theorem foldl_digitsOf (n : Nat) : (digitsOf n).foldl (fun n d => n * 10 + d) 0 = n := by
  rw [digitsOf, List.foldl_map]
  exact (ofDigits_eq_ofDigitChars _).trans (Nat.ofDigitChars_ten_toDigits ..)

theorem digit_le_nine {n d : Nat} (member : d ∈ digitsOf n) : d ≤ 9 := by
  obtain ⟨c, digit, rfl⟩ := List.mem_map.mp member
  have bounds : 48 ≤ c.toNat ∧ c.toNat ≤ 57 :=
    Char.isDigit_iff_toNat.mp (List.all_eq_true.mp (all_isDigit_toDigits n) c digit)
  have zero : '0'.toNat = 48 := rfl
  unfold digitValue
  omega

theorem digitValue_digitChar {d : Nat} (small : d < 10) : digitValue (Nat.digitChar d) = d := by
  have table : ∀ d < 10, digitValue (Nat.digitChar d) = d := by decide
  exact table d small

theorem digitsOf_of_lt {n : Nat} (small : n < 10) : digitsOf n = [n] := by
  simp [digitsOf, Nat.toDigits_of_lt_base small, digitValue_digitChar small]

theorem digitsOf_of_le {n : Nat} (great : 10 ≤ n) :
    digitsOf n = digitsOf (n / 10) ++ [n % 10] := by
  have last : n % 10 < 10 := Nat.mod_lt _ (by decide)
  rw [digitsOf, Nat.toDigits_eq_if (by decide), if_neg (Nat.not_lt.mpr great), List.map_append,
    List.map_singleton, digitValue_digitChar last, digitsOf]

theorem figures_digitsOf (n : Nat) : figures (digitsOf n) = Nat.toDigits 10 n := by
  induction n using Nat.strongRecOn with
  | ind n ih =>
    by_cases small : n < 10
    · simp [digitsOf_of_lt small, figures, Nat.toDigits_of_lt_base small]
    · have before := ih (n / 10) (by omega)
      rw [Nat.toDigits_eq_if (by decide), if_neg small, ← before,
        digitsOf_of_le (Nat.not_lt.mp small)]
      simp [figures]

theorem digitsOf_ne_nil (n : Nat) : digitsOf n ≠ [] := by
  simp [digitsOf, Nat.toDigits_ne_nil]

/-- No digits but those of zero begin with zero. -/
theorem head_digitsOf {n : Nat} (zero : (digitsOf n).head? = some 0) : n = 0 := by
  induction n using Nat.strongRecOn with
  | ind n ih =>
    by_cases small : n < 10
    · simpa [digitsOf_of_lt small] using zero
    · obtain ⟨d, ds, front⟩ := List.exists_cons_of_ne_nil (digitsOf_ne_nil (n / 10))
      rw [digitsOf_of_le (Nat.not_lt.mp small), front] at zero
      have none := ih (n / 10) (by omega) (by rw [front]; exact zero)
      omega

theorem isRun_digitsOf (n : Nat) : IsRun (digitsOf n) :=
  ⟨digitsOf_ne_nil n, fun _ member => Nat.lt_succ_of_le (digit_le_nine member)⟩

theorem writesMagnitude_digitsOf (negative : Bool) (n : Nat) :
    WritesMagnitude (Nat.toDigits 10 n) ⟨negative, digitsOf n, none, none⟩ := by
  have leading : (digitsOf n).head? = some 0 → digitsOf n = [0] := by
    intro zero
    rw [head_digitsOf zero]
    rfl
  have parts : WritesMagnitude (figures (digitsOf n) ++ [] ++ [])
      ⟨negative, digitsOf n, none, none⟩ := .parts (isRun_digitsOf n) leading .none .none
  simpa [figures_digitsOf] using parts

theorem writes_integer (n : Int) :
    Writes (toString n).toList ⟨decide (n < 0), digitsOf n.natAbs, none, none⟩ := by
  rw [toList_toString_int]
  by_cases negative : n < 0
  · rw [if_pos negative]
    exact .minus (decide_eq_true negative) (writesMagnitude_digitsOf _ _)
  · rw [if_neg negative]
    exact .plain (decide_eq_false negative) (writesMagnitude_digitsOf _ _)

/-! ## Reading -/

/-- An integer that is read as a number is read as the value of its digits. -/
theorem value_of_parse {n : Int} {number : Numeric}
    (read : parse (toString n) = .ok (.number number)) :
    (⟨decide (n < 0), digitsOf n.natAbs, none, none⟩ : Numeral).value = .ok number := by
  obtain ⟨rest, read⟩ := ok_of_readDocument read
  have lays := Lays.number (writes_integer n)
  have came := (reads_value depthLimit).here lays stops_nil
  rw [List.append_nil] at came
  rcases came with ⟨v, found, read'⟩ | ⟨-, e, failed⟩
  · cases read.symm.trans read'
    obtain ⟨_, value, same⟩ := Option.map_eq_some_iff.mp found
    cases same
    generalize (⟨decide (n < 0), digitsOf n.natAbs, none, none⟩ : Numeral).value = outcome at *
    cases outcome with
    | ok => exact congrArg Except.ok (Option.some.inj value)
    | error => cases value
  · cases read.symm.trans failed

/-! ## Taking digits -/

section Absorbing

/-- The number that digits come to behind a significand. -/
def grown (significand : Nat) (ds : List Nat) : Nat :=
  ds.foldl (fun n d => n * 10 + d) significand

theorem le_grown (significand : Nat) (ds : List Nat) : significand ≤ grown significand ds := by
  induction ds generalizing significand with
  | nil => exact Nat.le_refl _
  | cons d ds ih =>
    calc significand ≤ significand * 10 + d := by omega
      _ ≤ grown significand (d :: ds) := ih _

variable {significand : Nat} {exponent : Int} {ds : List Nat}

/-- Digits that keep to a word are all taken. -/
theorem absorb_of_le (fits : grown significand ds ≤ Binary.greatestWord) :
    Scaled.absorb 0 ⟨significand, exponent⟩ ds = (⟨grown significand ds, exponent⟩, []) := by
  induction ds generalizing significand with
  | nil => rfl
  | cons d ds ih =>
    have first : significand * 10 + d ≤ Binary.greatestWord := Nat.le_trans (le_grown _ ds) fits
    unfold Scaled.absorb
    dsimp only
    rw [if_pos first, Int.add_zero]
    exact ih fits

/-- Of digits that do not keep to a word one is left, and the significand is that of a word which
this digit would go past. -/
theorem absorb_of_lt (word : significand ≤ Binary.greatestWord)
    (beyond : Binary.greatestWord < grown significand ds) :
    ∃ taken d left, Scaled.absorb 0 ⟨significand, exponent⟩ ds = (⟨taken, exponent⟩, d :: left) ∧
      taken ≤ Binary.greatestWord ∧ Binary.greatestWord < taken * 10 + d ∧ d ∈ ds := by
  induction ds generalizing significand with
  | nil => exact absurd word (Nat.not_le.mpr beyond)
  | cons d ds ih =>
    unfold Scaled.absorb
    dsimp only
    by_cases fits : significand * 10 + d ≤ Binary.greatestWord
    · obtain ⟨taken, d', left, same, isWord, past, member⟩ := ih fits beyond
      rw [if_pos fits, Int.add_zero]
      exact ⟨taken, d', left, same, isWord, past, List.mem_cons_of_mem _ member⟩
    · rw [if_neg fits]
      exact ⟨significand, d, ds, rfl, word, Nat.not_le.mp fits, List.mem_cons_self⟩

end Absorbing

/-! ## Values -/

theorem grown_digitsOf (n : Nat) : grown 0 (digitsOf n) = n :=
  foldl_digitsOf n

section Words

variable {n : Nat} (word : n ≤ Binary.greatestWord)

include word

theorem absorb_digitsOf :
    Scaled.absorb 0 ⟨0, 0⟩ (digitsOf n) = (⟨n, 0⟩, []) := by
  have fits : grown 0 (digitsOf n) ≤ Binary.greatestWord := by
    rw [grown_digitsOf]
    exact word
  rw [absorb_of_le fits, grown_digitsOf]

theorem value_natural : (⟨false, digitsOf n, none, none⟩ : Numeral).value = .ok (.whole n) := by
  unfold Numeral.value
  rw [absorb_digitsOf word]
  rfl

theorem value_negative :
    (⟨true, digitsOf n, none, none⟩ : Numeral).value =
      if n = 0 ∨ leastMagnitude < n then .ok (.double (Binary.ofQuotient true n 1))
      else .ok (.whole (-n)) := by
  unfold Numeral.value
  rw [absorb_digitsOf word]
  rfl

end Words

/-- An integer of more than a word is a double: the digits that were taken, scaled by as many powers
of ten as digits were left. -/
theorem double_of_long {negative : Bool} {n : Nat} {number : Numeric}
    (long : Binary.greatestWord < n)
    (value : (⟨negative, digitsOf n, none, none⟩ : Numeral).value = .ok number) :
    ∃ (taken places : Nat) (x : Binary64), number = .double x ∧
      Scaled.toDouble negative ⟨taken, (places + 1 : Nat)⟩ = some x ∧
      taken ≤ Binary.greatestWord ∧ Binary.greatestWord < taken * 10 + 9 := by
  have beyond : Binary.greatestWord < grown 0 (digitsOf n) := by
    rw [grown_digitsOf]
    exact long
  obtain ⟨taken, d, left, same, isWord, past, member⟩ := absorb_of_lt (Nat.zero_le _) beyond
  have digit : d ≤ 9 := digit_le_nine member
  unfold Numeral.value at value
  rw [same] at value
  change Numeral.value.finish _ ⟨taken, (left.length + 1 : Nat)⟩ = _ at value
  unfold Numeral.value.finish at value
  split at value
  · next x double =>
    cases value
    exact ⟨taken, left.length, x, rfl, double, isWord, by omega⟩
  · cases value

/-! ## Long integers -/

section Scaling

open CitedAnswers.Number (Format)

theorem ofNat_of_word {n : Nat} (word : n ≤ Binary.greatestWord) :
    (Binary.ofNat n : Binary64) = .finite false (binary64.nearest n 1) := by
  have below : n < 2 ^ 64 := Nat.lt_succ_of_le word
  rw [Format.nearest_natural]
  exact Binary.ofQuotient_natural (by decide) below (by decide)

/-- The powers of ten that are scaled by are in range. -/
theorem ofNat_ten_pow {k : Nat} (small : k ≤ 308) :
    (Binary.ofNat (Nat.pow 10 k) : Binary64) =
      .finite false (binary64.nearest (Nat.pow 10 k) 1) := by
  -- The greatest of them is written as a power of a power, to be evaluated in steps.
  have powers (a b : Nat) (le : k ≤ a * b) : Nat.pow 10 k ≤ (10 ^ a) ^ b := by
    rw [← Nat.pow_mul]
    exact Nat.pow_le_pow_right (by decide) le
  have greatest : binary64.nearest ((10 ^ 77) ^ 4) 1 < 2 ^ binary64.span := by decide +kernel
  apply Binary.ofQuotient_of_lt
  refine Nat.lt_of_le_of_lt ?_ greatest
  exact Format.nearest_mono (by decide) Nat.one_pos (powers 77 4 small)

theorem multiplied_of_finite {negative : Bool} {m n k : Nat}
    (power : (Binary.ofNat (Nat.pow 10 k) : Binary64) = .finite false n) :
    scale.multiplied (.finite negative m) k =
      Binary.ofQuotient negative (m * n) (Nat.pow 2 (2 * binary64.scale)) := by
  unfold scale.multiplied
  rw [power, byFinite]

/-- A word that is scaled up is one rounded product, or zero. -/
theorem scale_of_word {taken k fuel : Nat} {y : Binary64} (word : taken ≤ Binary.greatestWord)
    (scaled : scale (Binary.ofNat taken) k (fuel + 1) = some y) :
    (y = .finite false 0 ∧ binary64.nearest taken 1 = 0) ∨
      y = .finite false (binary64.nearest
        (binary64.nearest taken 1 * binary64.nearest (Nat.pow 10 k) 1)
        (Nat.pow 2 (2 * binary64.scale))) := by
  rw [ofNat_of_word word, scale, Int.natAbs_natCast] at scaled
  by_cases small : k ≤ 308
  · rw [if_pos small, if_pos (Int.natCast_nonneg k),
      multiplied_of_finite (ofNat_ten_pow small)] at scaled
    obtain ⟨finite, same⟩ := Option.ite_none_left_eq_some.mp scaled
    rw [← Option.some.inj same]
    exact .inr (Binary.ofQuotient_of_not_isInfinite finite)
  · rw [if_neg small, if_pos (Int.natCast_nonneg k)] at scaled
    by_cases zero : (Binary.finite false (binary64.nearest taken 1) : Binary64) = .finite false 0
    · rw [if_pos zero] at scaled
      exact .inl ⟨(Option.some.inj scaled).symm.trans zero, (Binary.finite.inj zero).2⟩
    · rw [if_neg zero] at scaled
      cases scaled

/-- The digits that are taken of a long integer come to at least a tenth of `2 ^ 64`, and are
rounded up past that tenth. -/
theorem le_nearest_taken {taken : Nat} (past : Binary.greatestWord < taken * 10 + 9) :
    1844674407370955264 * 2 ^ binary64.scale ≤ binary64.nearest taken 1 := by
  have tenth : 1844674407370955161 ≤ taken := by
    unfold Binary.greatestWord at past
    omega
  have least : binary64.nearest 1844674407370955161 1 =
      1844674407370955264 * 2 ^ binary64.scale := by
    have bits : binary64.excess 1844674407370955161 = 8 := by decide
    rw [Format.nearest_natural, bits]
    congr 1
  rw [← least]
  exact Format.nearest_mono (by decide) Nat.one_pos tenth

theorem ten_le_nearest (places : Nat) :
    10 * 2 ^ binary64.scale ≤ binary64.nearest (Nat.pow 10 (places + 1)) 1 := by
  have least : binary64.nearest 10 1 = 10 * 2 ^ binary64.scale := by
    have bits : binary64.excess 10 = 0 := by decide
    rw [Format.nearest_natural, bits]
    congr 1
  have ten : 10 ≤ Nat.pow 10 (places + 1) := Nat.le_self_pow (Nat.succ_ne_zero places) 10
  rw [← least]
  exact Format.nearest_mono (by decide) Nat.one_pos ten

/-- What is at least `2 ^ 64` counts as the greatest word. -/
theorem roundToWord_of_le {f : Format} {quanta : Nat} (great : 2 ^ 64 * 2 ^ f.scale ≤ quanta) :
    (Binary.finite false quanta : Binary f).roundToWord = Binary.greatestWord := by
  have beyond : 2 ^ 64 ≤ roundHalfUp quanta (2 ^ f.scale) := by
    unfold roundHalfUp
    rw [Nat.le_div_iff_mul_le (Nat.mul_pos (by decide) (Nat.two_pow_pos _)), Nat.mul_left_comm]
    omega
  exact Nat.min_eq_right (Nat.le_trans (by decide) beyond)

theorem two_pow_le_nearest_product {f : Format} {m n : Nat} (precise : 0 < f.precision)
    (first : 1844674407370955264 * 2 ^ f.scale ≤ m) (second : 10 * 2 ^ f.scale ≤ n) :
    2 ^ 64 * 2 ^ f.scale ≤ f.nearest (m * n) (Nat.pow 2 (2 * f.scale)) := by
  have square : Nat.pow 2 (2 * f.scale) = 2 ^ f.scale * 2 ^ f.scale :=
    (congrArg _ (Nat.two_mul _)).trans (Nat.pow_add 2 _ _)
  have product : 2 ^ 64 * Nat.pow 2 (2 * f.scale) ≤ m * n :=
    calc 2 ^ 64 * Nat.pow 2 (2 * f.scale)
        ≤ 1844674407370955264 * 10 * (2 ^ f.scale * 2 ^ f.scale) := by
          rw [square]
          exact Nat.mul_le_mul_right _ (by decide)
      _ = 1844674407370955264 * 2 ^ f.scale * (10 * 2 ^ f.scale) := Nat.mul_mul_mul_comm _ _ _ _
      _ ≤ m * n := Nat.mul_le_mul first second
  have pos : 0 < Nat.pow 2 (2 * f.scale) := Nat.two_pow_pos _
  rw [← Format.nearest_two_pow precise, ← Format.nearest_mul_right pos]
  exact Format.nearest_mono precise pos product

/-- A long integer counts as the greatest word, or as nothing if it is negative. -/
theorem roundToWord_of_long {negative : Bool} {taken places : Nat} {x : Binary64}
    (word : taken ≤ Binary.greatestWord) (past : Binary.greatestWord < taken * 10 + 9)
    (double : Scaled.toDouble negative ⟨taken, (places + 1 : Nat)⟩ = some x) :
    x.roundToWord = if negative then 0 else Binary.greatestWord := by
  unfold Scaled.toDouble at double
  obtain ⟨y, scaled, rfl⟩ := Option.map_eq_some_iff.mp double
  rcases scale_of_word word scaled with ⟨-, zero⟩ | product
  · have large := le_nearest_taken past
    rw [zero] at large
    exact absurd large (Nat.not_le.mpr (Nat.mul_pos (by decide) (Nat.two_pow_pos _)))
  · cases negative with
    | true =>
      rw [product]
      rfl
    | false =>
      rw [product]
      exact roundToWord_of_le (two_pow_le_nearest_product (by decide) (le_nearest_taken past)
        (ten_le_nearest places))

end Scaling

end CitedAnswers.Json
