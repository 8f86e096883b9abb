/-! # Beginnings

What stands behind a given beginning of a text (`behind?`).
-/

namespace CitedAnswers.Text

/-- What stands behind `beginning`, if the text begins with it. -/
def behind? : (beginning text : List Char) → Option (List Char)
  | [], text => some text
  | _ :: _, [] => none
  | b :: beginning, c :: text => if b = c then behind? beginning text else none

/-- A text begins with `beginning` exactly when it is `beginning` and then something. -/
theorem behind?_eq_some_iff {beginning text rest : List Char} :
    behind? beginning text = some rest ↔ text = beginning ++ rest := by
  induction beginning generalizing text with
  | nil => simp [behind?]
  | cons b beginning ih =>
    cases text with
    | nil => simp [behind?]
    | cons c text =>
      by_cases h : b = c
      · simp [behind?, h, ih]
      · simp only [behind?, h, if_false, List.cons_append, List.cons.injEq, reduceCtorEq, false_iff]
        exact fun ⟨hc, _⟩ => h hc.symm

end CitedAnswers.Text
