import CitedAnswers.Number.Numeral

/-! # Integers in decimal

The digits of a natural read back as it and are digits only, and an integer is written with them behind its sign.
-/

namespace CitedAnswers.Number

theorem ofDigits_eq_ofDigitChars (ds : List Char) : ofDigits ds = Nat.ofDigitChars 10 ds 0 := by
  simp only [ofDigits, Nat.ofDigitChars_eq_foldl, digitValue, Nat.mul_comm]

theorem all_isDigit_toDigits (n : Nat) : (Nat.toDigits 10 n).all Char.isDigit = true :=
  List.all_eq_true.mpr fun _ member =>
    Nat.isDigit_of_mem_toDigits (by decide) (by decide) member

theorem not_mem_toDigits {c : Char} (other : c.isDigit = false) (n : Nat) :
    c ∉ Nat.toDigits 10 n := by
  intro member
  have digit := Nat.isDigit_of_mem_toDigits (by decide) (by decide) member
  rw [digit] at other
  cases other

theorem natural?_toDigits (n : Nat) : natural? (Nat.toDigits 10 n) = some n := by
  have notEmpty : (Nat.toDigits 10 n).isEmpty = false :=
    List.isEmpty_eq_false_iff.mpr Nat.toDigits_ne_nil
  rw [natural?, notEmpty, all_isDigit_toDigits, ofDigits_eq_ofDigitChars,
    Nat.ofDigitChars_ten_toDigits]
  rfl

theorem takeSign_of_isDigit {cs : List Char} (digits : cs.all Char.isDigit = true) :
    takeSign cs = (false, cs) := by
  unfold takeSign
  split
  · cases digits
  · cases digits
  · rfl

theorem toList_toString_int (n : Int) :
    (toString n).toList =
      if n < 0 then '-' :: Nat.toDigits 10 n.natAbs else Nat.toDigits 10 n.natAbs := by
  rw [Int.toString_eq_repr]
  cases n with
  | ofNat n =>
    have noMinus : ¬Int.ofNat n < 0 := Int.not_lt.mpr (Int.natCast_nonneg n)
    rw [if_neg noMinus]
    exact Nat.toList_repr
  | negSucc n =>
    rw [if_pos (Int.negSucc_lt_zero n)]
    simp only [Int.repr, String.toList_append, Nat.toList_repr]
    rfl

end CitedAnswers.Number
