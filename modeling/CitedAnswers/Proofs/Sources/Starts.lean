import CitedAnswers.Proofs.Sources.RunValues

/-! # Starts of passages

A start is a word that a double was cut off to (`isCutOff_startSeconds`).  Such a word is read back
from a marker that it is written into, so these words are all the starts there are
(`exists_startSeconds_iff`).
-/

namespace CitedAnswers.Sources

open CitedAnswers.Number (Binary Binary64 binary64 pointed? ofDigits)
open CitedAnswers.Text (isBlank trimStart)

/-! ## Markers -/

theorem isBlank_of_isRunChar {c : Char} (run : isRunChar c = true) : isBlank c = false := by
  unfold isRunChar at run
  rcases Bool.or_eq_true _ _ ▸ run with digit | point
  · have bounds : 48 ≤ c.toNat ∧ c.toNat ≤ 57 := Char.isDigit_iff_toNat.mp digit
    unfold isBlank
    simp
    omega
  · rw [beq_iff_eq.mp point]
    rfl

theorem not_isRunChar_of_isBlank {c : Char} (blank : isBlank c = true) : isRunChar c = false := by
  by_contra run
  rw [isBlank_of_isRunChar (Bool.not_eq_false _ ▸ run)] at blank
  cases blank

/-- A marker is found where it begins: behind the bracket and any blanks stands a run, and behind
this and any blanks the dash. -/
theorem runHere?_marker {before run after : List Char} (front : ∀ c ∈ before, isBlank c = true)
    (nonempty : run ≠ []) (runChars : ∀ c ∈ run, isRunChar c = true)
    (back : ∀ c ∈ after, isBlank c = true) (rest : List Char) :
    runHere? ('[' :: (before ++ (run ++ (after ++ dash :: rest)))) = some run := by
  have body : trimStart (before ++ (run ++ (after ++ dash :: rest))) =
      run ++ (after ++ dash :: rest) := by
    obtain ⟨c, cs, rfl⟩ := List.exists_cons_of_ne_nil nonempty
    have lexeme := isBlank_of_isRunChar (runChars c List.mem_cons_self)
    rw [trimStart, List.dropWhile_append_of_pos front]
    exact List.dropWhile_cons_of_neg (Bool.eq_false_iff.mp lexeme)
  -- A run ends at a blank and at the dash alike.
  have ends : (after ++ dash :: rest).takeWhile isRunChar = [] ∧
      (after ++ dash :: rest).dropWhile isRunChar = after ++ dash :: rest := by
    cases after with
    | nil => exact ⟨rfl, rfl⟩
    | cons c cs =>
      have blank := not_isRunChar_of_isBlank (back c List.mem_cons_self)
      exact ⟨List.takeWhile_cons_of_neg (Bool.eq_false_iff.mp blank),
        List.dropWhile_cons_of_neg (Bool.eq_false_iff.mp blank)⟩
  have taken : (run ++ (after ++ dash :: rest)).takeWhile isRunChar = run := by
    rw [List.takeWhile_append_of_pos runChars, ends.1, List.append_nil]
  have behind : trimStart ((run ++ (after ++ dash :: rest)).dropWhile isRunChar) =
      dash :: rest := by
    rw [List.dropWhile_append_of_pos runChars, ends.2, trimStart,
      List.dropWhile_append_of_pos back]
    rfl
  have notEmpty : run.isEmpty = false := List.isEmpty_eq_false_iff.mpr nonempty
  simp only [runHere?, if_true, body, taken, behind, notEmpty]
  rfl

/-! ## Values of runs -/

theorem isCutOff_runSeconds (run : List Char) : binary64.IsCutOff (runSeconds run) := by
  unfold runSeconds
  split
  · exact Binary.isCutOff_zero binary64
  · exact Binary.isCutOff_ofDecimal (by decide) _ _

theorem isCutOff_startSeconds (text : String) : binary64.IsCutOff (startSeconds text) := by
  unfold startSeconds
  split
  · exact Binary.isCutOff_zero binary64
  · exact isCutOff_runSeconds _

theorem pointed?_toDigits (n : Nat) : pointed? (Nat.toDigits 10 n) = some ⟨n, 0⟩ := by
  have digits : ∀ c ∈ Nat.toDigits 10 n, c.isDigit = true :=
    List.all_eq_true.mp (Number.all_isDigit_toDigits n)
  have value : ofDigits (Nat.toDigits 10 n) = n := by
    rw [Number.ofDigits_eq_ofDigitChars, Nat.ofDigitChars_ten_toDigits]
  rw [pointed?_bare digits Nat.toDigits_ne_nil, value]

theorem runSeconds_toDigits {n : Nat} (cutOff : binary64.IsCutOff n) :
    runSeconds (Nat.toDigits 10 n) = n := by
  rw [runSeconds, pointed?_toDigits]
  exact Binary.toWord_ofDecimal_of_isCutOff cutOff

/-! ## Starts -/

/-- A text with nothing but a marker that begins at this second. -/
def markerText (seconds : Nat) : String :=
  "[" ++ toString seconds ++ " – x]"

theorem firstRun?_markerText (seconds : Nat) :
    firstRun? (markerText seconds).toList = some (Nat.toDigits 10 seconds) := by
  have runChars : ∀ c ∈ Nat.toDigits 10 seconds, isRunChar c = true := by
    intro c member
    have digit := List.all_eq_true.mp (Number.all_isDigit_toDigits seconds) c member
    simp [isRunChar, digit]
  have shape : (markerText seconds).toList =
      '[' :: ([] ++ (Nat.toDigits 10 seconds ++ ([' '] ++ dash :: [' ', 'x', ']']))) := by
    rw [markerText, String.toList_append, String.toList_append, Nat.toString_eq_repr,
      Nat.toList_repr, List.append_assoc]
    rfl
  have noBlank : ∀ c ∈ ([] : List Char), isBlank c = true := List.forall_mem_nil _
  have blank : ∀ c ∈ [' '], isBlank c = true := List.forall_mem_singleton.mpr rfl
  rw [shape, firstRun?, runHere?_marker noBlank Nat.toDigits_ne_nil runChars blank]

theorem startSeconds_markerText {seconds : Nat} (cutOff : binary64.IsCutOff seconds) :
    startSeconds (markerText seconds) = seconds := by
  rw [startSeconds, firstRun?_markerText]
  exact runSeconds_toDigits cutOff

/-- The starts that passages can have. -/
theorem exists_startSeconds_iff (seconds : Nat) :
    (∃ text, startSeconds text = seconds) ↔ binary64.IsCutOff seconds := by
  constructor
  · rintro ⟨text, rfl⟩
    exact isCutOff_startSeconds text
  · intro cutOff
    exact ⟨markerText seconds, startSeconds_markerText cutOff⟩

end CitedAnswers.Sources
