import CitedAnswers.Proofs.Number.Decimals
import CitedAnswers.Settings.Value

/-! # Texts that are tried as other values

Where all values are texts, a text is tried as a truth value, as an integer and as a real number
before it counts as itself, and a text setting is written anew from what it was found to be
(`written`).  So it keeps the characters it was given only if they are the ones that such a value is
written with: these are the texts of `Verbatim`, and no others (`written_eq_self_iff`).
-/

namespace CitedAnswers.Settings

open CitedAnswers.Number (Binary Binary64 binary64 natural? takeSign)

/-! ## Writing anew -/

/-- Whether a text spells a truth value, in capitals or not. -/
def IsTruthWord (s : String) : Prop :=
  String.ofList (Text.lower s.toList) = "true" ∨ String.ofList (Text.lower s.toList) = "false"

/-- The text that a text setting gets where all values are texts. -/
def written (s : String) : String :=
  match Value.ofText s with
  | .bool b => if b then "true" else "false"
  | .int n => toString n
  | .real x => x.positional
  | .nil | .text _ | .list | .table _ => s

theorem Value.ofText_of_lower_eq_true {s : String}
    (word : String.ofList (Text.lower s.toList) = "true") : ofText s = .bool true :=
  if_pos word

theorem Value.ofText_of_lower_eq_false {s : String}
    (word : String.ofList (Text.lower s.toList) = "false") : ofText s = .bool false := by
  unfold ofText
  rw [word]
  rfl

theorem Value.ofText_of_not_isTruthWord {s : String} (noWord : ¬IsTruthWord s) :
    ofText s =
      match int? s with
      | some n => .int n
      | none =>
        match Binary.ofText? s.toList with
        | some x => .real x
        | none => .text s := by
  obtain ⟨noTrue, noFalse⟩ := not_or.mp noWord
  exact (if_neg noTrue).trans (if_neg noFalse)

/-- Such a value is a scalar, and what is read from it is what is written. -/
theorem readText_ofText (s : String) : readText (.ofText s) = .ok (written s) := by
  unfold written Value.ofText
  dsimp only
  split
  · rfl
  · split
    · rfl
    · split
      · rfl
      · split <;> rfl

/-! ## Integers -/

theorem int?_of_takeSign {s : String} {negative : Bool} {digits : List Char}
    (sign : takeSign s.toList = (negative, digits)) :
    int? s = (natural? digits).bind fun n =>
      if isInt64 (if negative then -n else n) then some (if negative then -(n : Int) else n)
      else none := by
  unfold int?
  rw [sign]

theorem isInt64_of_int? {s : String} {n : Int} (read : int? s = some n) : isInt64 n = true := by
  cases sign : takeSign s.toList with
  | mk negative digits =>
    rw [int?_of_takeSign sign] at read
    obtain ⟨m, -, fits⟩ := Option.bind_eq_some_iff.mp read
    obtain ⟨inside, same⟩ := Option.ite_none_right_eq_some.mp fits
    cases same
    exact inside

theorem int?_toString {n : Int} (fits : isInt64 n = true) : int? (toString n) = some n := by
  have shape := Number.toList_toString_int n
  by_cases negative : n < 0
  · have value : -(n.natAbs : Int) = n := by omega
    have sign : takeSign (toString n).toList = (true, Nat.toDigits 10 n.natAbs) := by
      rw [shape, if_pos negative]
      rfl
    rw [int?_of_takeSign sign, Number.natural?_toDigits, Option.bind_some, if_pos rfl, value,
      if_pos fits]
  · have value : (n.natAbs : Int) = n := by omega
    have sign : takeSign (toString n).toList = (false, Nat.toDigits 10 n.natAbs) := by
      rw [shape, if_neg negative]
      exact Number.takeSign_of_isDigit (Number.all_isDigit_toDigits n.natAbs)
    rw [int?_of_takeSign sign, Number.natural?_toDigits, Option.bind_some,
      if_neg Bool.false_ne_true, value, if_pos fits]

theorem head_toString_int (n : Int) :
    ∃ c rest, (toString n).toList = c :: rest ∧ (c = '-' ∨ c.isDigit = true) := by
  rw [Number.toList_toString_int]
  by_cases negative : n < 0
  · rw [if_pos negative]
    exact ⟨'-', _, rfl, .inl rfl⟩
  · rw [if_neg negative]
    have allDigits := Number.all_isDigit_toDigits n.natAbs
    cases digits : Nat.toDigits 10 n.natAbs with
    | nil => exact absurd digits Nat.toDigits_ne_nil
    | cons c rest =>
      rw [digits, List.all_cons, Bool.and_eq_true] at allDigits
      exact ⟨c, rest, rfl, .inr allDigits.1⟩

theorem lowerChar_of_isDigit {c : Char} (digit : c.isDigit = true) : Text.lowerChar c = [c] := by
  have bounds : 48 ≤ c.toNat ∧ c.toNat ≤ 57 := Char.isDigit_iff_toNat.mp digit
  have noCapital : ¬(c.val ≥ 'A'.val ∧ c.val ≤ 'Z'.val) := by
    intro capital
    have : 65 ≤ c.toNat := UInt32.le_iff_toNat_le.mp capital.1
    omega
  unfold Text.lowerChar Char.toLower
  rw [if_neg (by omega), if_neg (by omega), dif_neg noCapital]

/-- What begins with a small letter other than those two, or with no letter, is no truth word. -/
theorem not_isTruthWord_of_first {s : String} {c : Char} {rest : List Char}
    (first : s.toList = c :: rest) (small : Text.lowerChar c = [c]) (noT : c ≠ 't')
    (noF : c ≠ 'f') : ¬IsTruthWord s := by
  unfold IsTruthWord
  rw [first, Text.lower, List.flatMap_cons, small]
  rintro (word | word)
  · have letters : c :: Text.lower rest = ['t', 'r', 'u', 'e'] := String.ofList_inj.mp word
    exact noT (List.cons.inj letters).1
  · have letters : c :: Text.lower rest = ['f', 'a', 'l', 's', 'e'] := String.ofList_inj.mp word
    exact noF (List.cons.inj letters).1

theorem not_isTruthWord_toString_int (n : Int) : ¬IsTruthWord (toString n) := by
  obtain ⟨c, rest, first, minus | digit⟩ := head_toString_int n
  · subst minus
    exact not_isTruthWord_of_first first rfl (by decide) (by decide)
  · refine not_isTruthWord_of_first first (lowerChar_of_isDigit digit) ?_ ?_
    · rintro rfl
      cases digit
    · rintro rfl
      cases digit

/-! ## Verbatim texts -/

/-- The texts that a text setting keeps as they are. -/
inductive Verbatim (s : String) : Prop
  | truth (word : s = "true" ∨ s = "false")
  | integer (n : Int) (fits : isInt64 n = true) (decimal : s = toString n)
  | real (x : Binary64) (noWord : ¬IsTruthWord s) (noInteger : int? s = none)
      (numeral : Binary.ofText? s.toList = some x) (shortest : s = x.positional)
  | other (noWord : ¬IsTruthWord s) (noInteger : int? s = none)
      (noNumeral : Binary.ofText? (f := binary64) s.toList = none)

/-- A text is written anew as it is exactly if it is verbatim. -/
theorem written_eq_self_iff (s : String) : written s = s ↔ Verbatim s := by
  constructor
  · intro same
    unfold written at same
    -- One case for each try, in the order in which they are made.
    by_cases word : IsTruthWord s
    · rcases word with word | word
      · rw [Value.ofText_of_lower_eq_true word] at same
        exact .truth (.inl same.symm)
      · rw [Value.ofText_of_lower_eq_false word] at same
        exact .truth (.inr same.symm)
    · rw [Value.ofText_of_not_isTruthWord word] at same
      cases integer : int? s with
      | some n =>
        rw [integer] at same
        exact .integer n (isInt64_of_int? integer) same.symm
      | none =>
        rw [integer] at same
        cases numeral : Binary.ofText? (f := binary64) s.toList with
        | some x =>
          rw [numeral] at same
          exact .real x word integer numeral same.symm
        | none => exact .other word integer numeral
  · intro verbatim
    unfold written
    cases verbatim with
    | truth word => rcases word with rfl | rfl <;> rfl
    | integer n fits decimal =>
      subst decimal
      rw [Value.ofText_of_not_isTruthWord (not_isTruthWord_toString_int n), int?_toString fits]
    | real x noWord noInteger numeral shortest =>
      rw [Value.ofText_of_not_isTruthWord noWord, noInteger, numeral]
      exact shortest.symm
    | other noWord noInteger noNumeral =>
      rw [Value.ofText_of_not_isTruthWord noWord, noInteger, noNumeral]

end CitedAnswers.Settings
