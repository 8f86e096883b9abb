import CitedAnswers.Proofs.Number.Decimals
import CitedAnswers.Proofs.Number.ExactValues
import CitedAnswers.Sources.Marker
import Mathlib.Data.List.TakeWhile

/-! # Values of runs

A run is a numeral if it has a digit and no second point (`IsNumeral`), and then it has an exact
value (`decimalValue`).  Its digits stand in front of the point and behind it (`Figures`); taken
together without the point they are a natural, and the value is that natural in parts of a power of
ten (`Figures.decimalValue_eq`).

The seconds of a run are those of its exact value, and nothing if it has none (`runSeconds_eq`).
-/

namespace CitedAnswers.Sources

open CitedAnswers.Number (Pointed pointed? ofDigits wholeSeconds)

/-! ## Numerals -/

/-- Whether a run is a number: it has at most one point, and a digit. -/
def IsNumeral (run : List Char) : Prop :=
  run.count '.' ≤ 1 ∧ ∃ c ∈ run, c.isDigit = true

instance (run : List Char) : Decidable (IsNumeral run) :=
  decidable_of_iff (run.count '.' ≤ 1 ∧ run.any Char.isDigit = true)
    (by rw [IsNumeral, List.any_eq_true])

/-- The exact value of a numeral: that of the digits in front of the point, and that of those behind
it as a fraction. -/
def decimalValue (run : List Char) : ℚ≥0 :=
  let whole := run.takeWhile (· ≠ '.')
  let fraction := (run.dropWhile (· ≠ '.')).tail
  Nat.ofDigitChars 10 whole 0 + Nat.ofDigitChars 10 fraction 0 / 10 ^ fraction.length

/-- The digits of a numeral in front of its point and behind it. -/
inductive Figures : (run whole fraction : List Char) → Prop where
  | bare {whole : List Char} (digits : ∀ c ∈ whole, c.isDigit = true) : Figures whole whole []
  | pointed {whole fraction : List Char} (digits : ∀ c ∈ whole, c.isDigit = true)
      (digits' : ∀ c ∈ fraction, c.isDigit = true) :
      Figures (whole ++ '.' :: fraction) whole fraction

section Digits

variable {ds : List Char}

theorem point_not_mem (digits : ∀ c ∈ ds, c.isDigit = true) : '.' ∉ ds :=
  fun member => absurd (digits '.' member) (by decide)

theorem isDigit_of_point_not_mem (runChars : ∀ c ∈ ds, isRunChar c = true) (none : '.' ∉ ds) :
    ∀ c ∈ ds, c.isDigit = true := by
  intro c member
  rcases Bool.or_eq_true _ _ ▸ runChars c member with digit | point
  · exact digit
  · rw [beq_iff_eq.mp point] at member
    exact absurd member none

theorem ofDigitChars_lt (digits : ∀ c ∈ ds, c.isDigit = true) :
    Nat.ofDigitChars 10 ds 0 < 10 ^ ds.length := by
  induction ds with
  | nil => decide
  | cons c rest ih =>
    obtain ⟨digit, others⟩ := List.forall_mem_cons.mp digits
    have bounds : 48 ≤ c.toNat ∧ c.toNat ≤ 57 := Char.isDigit_iff_toNat.mp digit
    have zero : '0'.toNat = 48 := rfl
    have below := ih others
    rw [Nat.ofDigitChars_cons, Nat.ofDigitChars_eq_ofDigitChars_zero, List.length_cons,
      Nat.pow_succ, zero]
    have first : 10 ^ rest.length * (10 * 0 + (c.toNat - 48)) ≤ 10 ^ rest.length * 9 :=
      Nat.mul_le_mul_left _ (by omega)
    omega

end Digits

section Reading

variable {whole behind : List Char}

theorem isNumeral_pointed_iff (digits : ∀ c ∈ whole, c.isDigit = true)
    (runChars : ∀ c ∈ behind, isRunChar c = true) :
    IsNumeral (whole ++ '.' :: behind) ↔
      (∀ c ∈ behind, c.isDigit = true) ∧ whole ++ behind ≠ [] := by
  have points : (whole ++ '.' :: behind).count '.' = behind.count '.' + 1 := by
    rw [List.count_append, List.count_cons_self, List.count_eq_zero.mpr (point_not_mem digits),
      Nat.zero_add]
  constructor
  · rintro ⟨few, c, member, digit⟩
    have none : '.' ∉ behind := List.count_eq_zero.mp (by omega)
    refine ⟨isDigit_of_point_not_mem runChars none, fun empty => ?_⟩
    obtain ⟨rfl, rfl⟩ := List.append_eq_nil_iff.mp empty
    rw [List.mem_singleton.mp member] at digit
    cases digit
  · rintro ⟨digits', nonempty⟩
    have few : (whole ++ '.' :: behind).count '.' ≤ 1 := by
      rw [points, List.count_eq_zero.mpr (point_not_mem digits')]
    obtain ⟨c, member⟩ := List.exists_mem_of_ne_nil _ nonempty
    rcases List.mem_append.mp member with inWhole | inFraction
    · exact ⟨few, c, List.mem_append_left _ inWhole, digits c inWhole⟩
    · exact ⟨few, c, List.mem_append_right _ (List.mem_cons_of_mem _ inFraction),
        digits' c inFraction⟩

theorem pointed?_pointed (digits : ∀ c ∈ whole, c.isDigit = true)
    (runChars : ∀ c ∈ behind, isRunChar c = true) :
    pointed? (whole ++ '.' :: behind) =
      if IsNumeral (whole ++ '.' :: behind) then
        some ⟨ofDigits (whole ++ behind), behind.length⟩
      else none := by
  have front : (whole ++ '.' :: behind).takeWhile Char.isDigit = whole := by
    rw [List.takeWhile_append_of_pos digits]
    exact List.append_nil whole
  have back : (whole ++ '.' :: behind).dropWhile Char.isDigit = '.' :: behind := by
    rw [List.dropWhile_append_of_pos digits]
    rfl
  simp only [pointed?, front, back, true_and, isNumeral_pointed_iff digits runChars,
    List.all_eq_true, List.isEmpty_iff, ne_eq, List.append_eq_nil_iff]

theorem pointed?_bare (digits : ∀ c ∈ whole, c.isDigit = true) (nonempty : whole ≠ []) :
    pointed? whole = some ⟨ofDigits whole, 0⟩ := by
  have front : whole.takeWhile Char.isDigit = whole := List.takeWhile_eq_self_iff.mpr digits
  have back : whole.dropWhile Char.isDigit = [] := List.dropWhile_eq_nil_iff.mpr digits
  simp [pointed?, front, back, nonempty]

end Reading

/-- A run is read as a number exactly if it is a numeral, and then by its figures. -/
theorem pointed?_cases {run : List Char} (runChars : ∀ c ∈ run, isRunChar c = true)
    (nonempty : run ≠ []) :
    (IsNumeral run ∧ ∃ whole fraction, Figures run whole fraction ∧
        pointed? run = some ⟨ofDigits (whole ++ fraction), fraction.length⟩) ∨
      ¬IsNumeral run ∧ pointed? run = none := by
  by_cases point : '.' ∈ run
  · obtain ⟨whole, behind, rfl, before⟩ := List.eq_append_cons_of_mem point
    obtain ⟨front, back⟩ := List.forall_mem_append.mp runChars
    have digits := isDigit_of_point_not_mem front before
    have others := (List.forall_mem_cons.mp back).2
    rw [pointed?_pointed digits others]
    by_cases numeral : IsNumeral (whole ++ '.' :: behind)
    · have digits' := ((isNumeral_pointed_iff digits others).mp numeral).1
      exact .inl ⟨numeral, whole, behind, .pointed digits digits', if_pos numeral⟩
    · exact .inr ⟨numeral, if_neg numeral⟩
  · have digits := isDigit_of_point_not_mem runChars point
    obtain ⟨c, member⟩ := List.exists_mem_of_ne_nil run nonempty
    have numeral : IsNumeral run :=
      ⟨by rw [List.count_eq_zero.mpr point]; decide, c, member, digits c member⟩
    refine .inl ⟨numeral, run, [], .bare digits, ?_⟩
    rw [List.append_nil]
    exact pointed?_bare digits nonempty

namespace Figures

variable {run whole fraction : List Char}

theorem digits (figures : Figures run whole fraction) :
    ∀ c ∈ whole ++ fraction, c.isDigit = true := by
  cases figures with
  | bare digits => exact List.forall_mem_append.mpr ⟨digits, List.forall_mem_nil _⟩
  | pointed digits digits' => exact List.forall_mem_append.mpr ⟨digits, digits'⟩

theorem countP_isDigit (figures : Figures run whole fraction) :
    run.countP Char.isDigit = (whole ++ fraction).length := by
  cases figures with
  | bare digits => rw [List.append_nil, List.countP_eq_length.mpr digits]
  | pointed digits digits' =>
    have point : '.'.isDigit = false := by decide
    rw [List.countP_append, List.countP_cons_of_neg (by simp [point]),
      List.countP_eq_length.mpr digits, List.countP_eq_length.mpr digits', List.length_append]

theorem decimalValue_split (figures : Figures run whole fraction) :
    decimalValue run =
      Nat.ofDigitChars 10 whole 0 + Nat.ofDigitChars 10 fraction 0 / 10 ^ fraction.length := by
  have unpointed : ∀ c ∈ whole, decide (c ≠ '.') = true := by
    intro c member
    have digit := figures.digits c (List.mem_append_left _ member)
    refine decide_eq_true ?_
    rintro rfl
    cases digit
  cases figures with
  | bare =>
    simp only [decimalValue, List.takeWhile_eq_self_iff.mpr unpointed,
      List.dropWhile_eq_nil_iff.mpr unpointed, List.tail_nil]
  | pointed =>
    rw [decimalValue, List.takeWhile_append_of_pos unpointed,
      List.dropWhile_append_of_pos unpointed]
    simp

/-- The value of a numeral is that of its digits without the point, in parts of a power of ten. -/
theorem decimalValue_eq (figures : Figures run whole fraction) :
    decimalValue run = ofDigits (whole ++ fraction) / (10 ^ fraction.length : Nat) := by
  have digits : ofDigits (whole ++ fraction) =
      10 ^ fraction.length * Nat.ofDigitChars 10 whole 0 + Nat.ofDigitChars 10 fraction 0 := by
    rw [Number.ofDigits_eq_ofDigitChars, Nat.ofDigitChars_append,
      Nat.ofDigitChars_eq_ofDigitChars_zero]
  have ten : (10 ^ fraction.length : ℚ≥0) ≠ 0 := pow_ne_zero _ (by norm_num)
  rw [figures.decimalValue_split, digits]
  push_cast
  rw [add_div, mul_div_cancel_left₀ _ ten]

end Figures

/-- The seconds of a run are those of its exact value. -/
theorem runSeconds_eq {run : List Char} (runChars : ∀ c ∈ run, isRunChar c = true)
    (nonempty : run ≠ []) :
    runSeconds run = if IsNumeral run then wholeSeconds (decimalValue run) else 0 := by
  unfold runSeconds
  rcases pointed?_cases runChars nonempty with
    ⟨numeral, whole, fraction, figures, read⟩ | ⟨broken, read⟩
  · rw [read, if_pos numeral, figures.decimalValue_eq,
      Number.wholeSeconds_div _ (Nat.pow_pos (by decide))]
    exact congrArg Number.Binary.toWord (Number.Binary.ofDecimal_neg (by decide) _ _)
  · rw [read, if_neg broken]

end CitedAnswers.Sources
