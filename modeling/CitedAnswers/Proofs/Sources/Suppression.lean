import CitedAnswers.Metrics.Tally
import CitedAnswers.Proofs.Text.Lowercasing
import Mathlib.Data.List.DropRight
import Mathlib.Data.List.TakeWhile

/-! # Answers without sources

An answer goes without sources if its question is a task of the chat program, blanks in front aside,
or if it says a set phrase in whichever letter case (`Suppressed`).  The check takes few letters to
lower case; with all of Unicode lower case it would suppress the same (`mayCite_eq_false_iff`).

Either reason outlasts what is put around it: blanks in front of the question and anything behind
it, anything on both sides of the answer and other cases of its ASCII letters.  Such an answer is
given as it is, and no citation is counted for it.
-/

namespace CitedAnswers.Sources

open CitedAnswers.Metrics (Tally)
open CitedAnswers.Text

/-! ## Tasks -/

/-- A beginning that ends in a visible character is never trimmed off. -/
theorem prefix_trimEnd_iff {front cs : List Char} {last : Char} (solid : isBlank last = false) :
    front ++ [last] <+: trimEnd cs ↔ front ++ [last] <+: cs := by
  constructor
  · intro starts
    exact starts.trans (List.rdropWhile_prefix isBlank cs)
  · rintro ⟨behind, rfl⟩
    rw [trimEnd, List.reverse_append, List.dropWhile_append]
    -- Only when nothing but blanks is behind the beginning does trimming come up to it.
    split
    · simp [solid]
    · simp

theorem isTask_iff {question : String} :
    isTask question = true ↔ ∃ blanks rest, (∀ c ∈ blanks, isBlank c = true) ∧
      question.toList = blanks ++ (taskMarker.toList ++ rest) := by
  have marker : taskMarker.toList = "### Task".toList ++ [':'] := by decide
  rw [isTask, List.isPrefixOf_iff_prefix, trim, marker, prefix_trimEnd_iff (by decide), ← marker]
  constructor
  · rintro ⟨rest, found⟩
    refine ⟨question.toList.takeWhile isBlank, rest, fun c => List.mem_takeWhile_imp, ?_⟩
    rw [found, trimStart, List.takeWhile_append_dropWhile]
  · rintro ⟨blanks, rest, blank, found⟩
    refine ⟨rest, ?_⟩
    have solid : isBlank '#' = false := by decide
    have head : taskMarker.toList = '#' :: "## Task:".toList := by decide
    rw [found, trimStart, List.dropWhile_append_of_pos blank, head, List.cons_append,
      List.dropWhile_cons_of_neg (by simp [solid])]

theorem isTask_embedded {question blanks : String} (task : isTask question = true)
    (blank : ∀ c ∈ blanks.toList, isBlank c = true) (behind : String) :
    isTask (blanks ++ question ++ behind) = true := by
  obtain ⟨inner, rest, innerBlank, found⟩ := isTask_iff.mp task
  refine isTask_iff.mpr ⟨blanks.toList ++ inner, rest ++ behind.toList, ?_, ?_⟩
  · intro c member
    exact (List.mem_append.mp member).elim (blank c) (innerBlank c)
  · simp [found]

/-! ## Set phrases -/

theorem isSetPhrase_iff {answer : String} :
    isSetPhrase answer = true ↔
      ∃ phrase ∈ setPhrases, phrase.toList <:+: lower answer.toList := by
  simp [isSetPhrase, List.any_eq_true, occursIn_iff]

theorem isPlain_of_setPhrase :
    ∀ phrase ∈ setPhrases, ∀ c ∈ phrase.toList, isPlain c = true := by
  have all : setPhrases.all (fun phrase => phrase.toList.all isPlain) = true := by decide
  simpa only [List.all_eq_true] using all

theorem isSetPhrase_embedded {answer answer' : String} (said : isSetPhrase answer = true)
    (recased : Recased answer.toList answer'.toList) (before after : String) :
    isSetPhrase (before ++ answer' ++ after) = true := by
  obtain ⟨phrase, known, inside⟩ := isSetPhrase_iff.mp said
  refine isSetPhrase_iff.mpr ⟨phrase, known, ?_⟩
  have split : lower (before ++ answer' ++ after).toList =
      lower before.toList ++ lower answer'.toList ++ lower after.toList := by
    simp [lower]
  rw [split, ← lower_eq_of_recased recased]
  exact inside.trans (List.infix_append _ _ _)

/-! ## Suppression -/

/-- Why an answer goes without sources, after the whole of Unicode lower case and a rule for the
final sigma. -/
inductive Suppressed (isFinal : SigmaRule) (question answer : String) : Prop where
  | task {blanks rest : List Char} (blank : ∀ c ∈ blanks, isBlank c = true)
      (found : question.toList = blanks ++ (taskMarker.toList ++ rest))
  | phrase {phrase : String} (known : phrase ∈ setPhrases)
      (said : phrase.toList <:+: lowercase isFinal [] answer.toList)

section Suppression

variable {question answer : String}

theorem mayCite_eq_false :
    mayCite question answer = false ↔ isTask question = true ∨ isSetPhrase answer = true := by
  rw [mayCite, Bool.and_eq_false_iff, Bool.not_eq_false', Bool.not_eq_false']

/-- An answer goes without sources exactly if it is suppressed, whichever sigmas are final. -/
theorem mayCite_eq_false_iff (isFinal : SigmaRule) :
    mayCite question answer = false ↔ Suppressed isFinal question answer := by
  rw [mayCite_eq_false, isTask_iff, isSetPhrase_iff]
  constructor
  · rintro (⟨blanks, rest, blank, found⟩ | ⟨phrase, known, said⟩)
    · exact .task blank found
    · exact .phrase known
        ((infix_lowercase_iff (isPlain_of_setPhrase phrase known) isFinal _ _).mpr said)
  · rintro (⟨blank, found⟩ | ⟨known, said⟩)
    · exact .inl ⟨_, _, blank, found⟩
    · exact .inr ⟨_, known,
        (infix_lowercase_iff (isPlain_of_setPhrase _ known) isFinal _ _).mp said⟩

theorem mayCite_embedded {blanks answer' : String} (suppressed : mayCite question answer = false)
    (blank : ∀ c ∈ blanks.toList, isBlank c = true)
    (recased : Recased answer.toList answer'.toList) (behind before after : String) :
    mayCite (blanks ++ question ++ behind) (before ++ answer' ++ after) = false := by
  rw [mayCite_eq_false] at suppressed ⊢
  rcases suppressed with task | said
  · exact .inl (isTask_embedded task blank behind)
  · exact .inr (isSetPhrase_embedded said recased before after)

theorem shown_of_suppressed (suppressed : mayCite question answer = false)
    (citations : List Citation) : shown question answer citations = [] := by
  simp [shown, suppressed]

end Suppression

/-- An answer that goes without sources still does with anything around it, its ASCII letters in
another case and its question behind blanks and before anything else: it is given as it is, and no
citation is counted. -/
theorem cite_of_suppressed {question answer blanks answer' : String}
    (suppressed : mayCite question answer = false)
    (blank : ∀ c ∈ blanks.toList, isBlank c = true)
    (recased : Recased answer.toList answer'.toList) (behind before after : String) :
    mayCite (blanks ++ question ++ behind) (before ++ answer' ++ after) = false ∧
      (∀ isFinal, Suppressed isFinal (blanks ++ question ++ behind) (before ++ answer' ++ after)) ∧
      ∀ citations,
        cite (blanks ++ question ++ behind) (before ++ answer' ++ after) citations =
          before ++ answer' ++ after ∧
        ∀ context (tally : Tally),
          (tally.count (.answered (blanks ++ question ++ behind) context
            (before ++ answer' ++ after) citations)).citations = tally.citations := by
  have still := mayCite_embedded suppressed blank recased behind before after
  refine ⟨still, fun isFinal => (mayCite_eq_false_iff isFinal).mp still, fun citations => ?_⟩
  have none := shown_of_suppressed still citations
  constructor
  · rw [cite, none]
    simp [Citation.footer]
  · intro context tally
    simp [Tally.count, Tally.countCitations, Tally.countOutcome, Answering.Ending.cited, none]

/-- A greeting in capitals behind a final sigma and before a capital I with dot above. -/
theorem cite_of_suppressed_greeting :
    mayCite "hi" "AssalamuAlaikum!" = false ∧
      mayCite "\u2003hi there" "ΟΔΟΣ ASSALAMUALAIKUM!İ" = false ∧
      ∀ citations,
        cite "\u2003hi there" "ΟΔΟΣ ASSALAMUALAIKUM!İ" citations = "ΟΔΟΣ ASSALAMUALAIKUM!İ" := by
  have suppressed : mayCite "hi" "AssalamuAlaikum!" = false := by decide
  have blank : ∀ c ∈ "\u2003".toList, isBlank c = true := List.all_eq_true.mp rfl
  have embedded := cite_of_suppressed suppressed blank
    (by decide : Recased "AssalamuAlaikum!".toList "ASSALAMUALAIKUM!".toList) " there" "ΟΔΟΣ " "İ"
  exact ⟨suppressed, embedded.1, fun citations => (embedded.2.2 citations).1⟩

end CitedAnswers.Sources
