import CitedAnswers.Proofs.Sources.Markers

/-! # Starts and exact values

The run of a marker may have any number of digits, and its exact value is rounded to a double before
it is cut off.  `startSeconds_of_timed` says what this does to the start: nothing while the run has at
most fifteen digits, or the value is a natural up to `2 ^ 53`; one second at most below `2 ^ 53`; and
it never puts the greater of two values before the less, so the earliest start of a video is the
start of a passage with the least value.
-/

namespace CitedAnswers.Sources

open CitedAnswers.Number (ofDigits wholeSeconds)

/-- Whether the first marker of a text has this run, and the run is a numeral. -/
structure Timed (text : String) (run : List Char) : Prop where
  first : ∃ i o, Opening.OpensFirst text.toList i o ∧ o.run = run
  numeral : IsNumeral run

section Timed

variable {text : String} {run : List Char}

theorem startSeconds_eq_wholeSeconds (timed : Timed text run) :
    startSeconds text = wholeSeconds (decimalValue run) := by
  obtain ⟨i, o, first, rfl⟩ := timed.first
  rw [startSeconds_of_opensFirst first, Opening.seconds, if_pos timed.numeral]

theorem exists_figures (timed : Timed text run) :
    ∃ whole fraction, Figures run whole fraction := by
  obtain ⟨i, o, -, rfl⟩ := timed.first
  rcases pointed?_cases o.runChars o.nonempty with ⟨-, whole, fraction, figures, -⟩ | ⟨broken, -⟩
  · exact ⟨whole, fraction, figures⟩
  · exact absurd timed.numeral broken

/-- With at most fifteen digits no value is rounded up to the next second. -/
theorem startSeconds_of_short (timed : Timed text run) (short : run.countP Char.isDigit ≤ 15) :
    startSeconds text = ⌊decimalValue run⌋₊ := by
  obtain ⟨whole, fraction, figures⟩ := exists_figures timed
  rw [figures.countP_isDigit] at short
  have digits : ofDigits (whole ++ fraction) < 10 ^ 15 :=
    calc ofDigits (whole ++ fraction) = Nat.ofDigitChars 10 (whole ++ fraction) 0 :=
          Number.ofDigits_eq_ofDigitChars _
      _ < 10 ^ (whole ++ fraction).length := ofDigitChars_lt figures.digits
      _ ≤ 10 ^ 15 := Nat.pow_le_pow_right (by decide) short
  have behind : fraction.length ≤ 15 := by
    rw [List.length_append] at short
    omega
  rw [startSeconds_eq_wholeSeconds timed, figures.decimalValue_eq]
  exact Number.wholeSeconds_of_short digits behind

end Timed

/-- What the start of a text has to do with the exact value of the run that it is read off. -/
theorem startSeconds_of_timed {text : String} {run : List Char} (timed : Timed text run) :
    (run.countP Char.isDigit ≤ 15 → startSeconds text = ⌊decimalValue run⌋₊) ∧
      (∀ n : Nat, n ≤ 2 ^ 53 → decimalValue run = n → startSeconds text = n) ∧
      (decimalValue run < 2 ^ 53 →
        ⌊decimalValue run⌋₊ ≤ startSeconds text ∧ startSeconds text ≤ ⌊decimalValue run⌋₊ + 1) ∧
      (2 ^ 64 ≤ decimalValue run → startSeconds text = 2 ^ 64 - 1) ∧
      ∀ text' run', Timed text' run' → decimalValue run ≤ decimalValue run' →
        startSeconds text ≤ startSeconds text' := by
  have seconds := startSeconds_eq_wholeSeconds timed
  refine ⟨startSeconds_of_short timed, ?_, ?_, ?_, ?_⟩
  · intro n small whole
    rw [seconds, whole]
    exact Number.wholeSeconds_natCast small
  · intro small
    rw [seconds]
    exact Number.wholeSeconds_of_lt small
  · intro great
    rw [seconds]
    exact Number.wholeSeconds_of_ge great
  · intro text' run' timed' le
    rw [seconds, startSeconds_eq_wholeSeconds timed']
    exact Number.wholeSeconds_mono le

/-- Half a second below `2 ^ 53`, between two doubles, and `2 ^ 53` itself. -/
theorem startSeconds_of_timed_halfway :
    startSeconds "x [ 9007199254740992. –" = 2 ^ 53 ∧
      2 ^ 53 - 1 ≤ startSeconds "[9007199254740991.5 – x]" ∧
      startSeconds "[9007199254740991.5 – x]" ≤ startSeconds "x [ 9007199254740992. –" := by
  have timed : Timed "[9007199254740991.5 – x]" "9007199254740991.5".toList :=
    ⟨firstRun?_eq_some_iff.mp rfl, by decide⟩
  have timed' : Timed "x [ 9007199254740992. –" "9007199254740992.".toList :=
    ⟨firstRun?_eq_some_iff.mp rfl, by decide⟩
  have value : decimalValue "9007199254740991.5".toList = 18014398509481983 / 2 := by
    decide +kernel
  have value' : decimalValue "9007199254740992.".toList = (2 ^ 53 : Nat) := by decide +kernel
  obtain ⟨-, -, within, -, monotone⟩ := startSeconds_of_timed timed
  obtain ⟨-, exact, -⟩ := startSeconds_of_timed timed'
  refine ⟨exact (2 ^ 53) (Nat.le_refl _) value', ?_, ?_⟩
  · have floor : ⌊(18014398509481983 / 2 : ℚ≥0)⌋₊ = 2 ^ 53 - 1 := by decide +kernel
    rw [value, floor] at within
    exact (within (by decide +kernel)).1
  · refine monotone _ _ timed' ?_
    rw [value, value']
    decide +kernel

/-- The greater of the two starts that this leaves is the one that is taken. -/
example : startSeconds "[9007199254740991.5 – x]" = 2 ^ 53 := by decide +kernel

end CitedAnswers.Sources
