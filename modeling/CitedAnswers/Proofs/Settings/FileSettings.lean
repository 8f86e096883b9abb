import CitedAnswers.Proofs.Settings.TextSettings

/-! # Settings from a file of variables

A file of variables that is malformed somewhere is applied in part, and settings are loaded from
that part without an error.  The first assignment to a new name takes effect if and only if no line
before it is malformed (`takesEffect_iff`), so a secret behind a malformed line is not asked for.
-/

namespace CitedAnswers.Settings

open CitedAnswers.Environment (Variables assignedName? isMalformed logicalLines readLine)

/-! ## Assignments of a file -/

/-- Whether an assignment has taken effect: the variable has the value, and every setting that no
other variable gives is read from it. -/
def TakesEffect (vars : Variables) (s : Settings) (name value : String) : Prop :=
  vars.lookup name = some value ∧
    ∀ k : Setting, settingOf? name = some k.key →
      (∀ entry ∈ vars, settingOf? entry.1 = some k.key → entry.1 = name) →
        k.Reads s (.ofText value)

variable {vars : Variables} {file : String} {before after : List (Option (List Char))}
  {line : List Char} {name value : String} {s : Settings}

/-- The first assignment of a file to a new name takes effect if and only if no line before it is
malformed.  If one is, the settings are loaded as if the file ended before the assignment. -/
theorem takesEffect_iff (lines : logicalLines file = before ++ some line :: after)
    (assigns : readLine (vars.extendBy before).valueOf line = .assignment name value)
    (unset : vars.lookup name = none)
    (first : ∀ earlier ∈ before, assignedName? earlier ≠ some name)
    (loaded : loadEnvironment vars (some file) = .ok s) :
    (TakesEffect (vars.extend file) s name value ↔
        ∀ earlier ∈ before, isMalformed earlier = false) ∧
      ((∃ earlier ∈ before, isMalformed earlier = true) →
        loadVariables (vars.extendBy before) = .ok s) := by
  have extended : vars.extend file = vars.extendBy (before ++ some line :: after) :=
    congrArg vars.extendBy lines
  have loaded : loadVariables (vars.extend file) = .ok s := loaded
  have set : (vars.extend file).lookup name = some value ↔
      ∀ earlier ∈ before, isMalformed earlier = false := by
    rw [extended]
    exact Variables.lookup_extendBy_eq_some_iff unset first assigns
  refine ⟨⟨fun effect => set.mp effect.1, fun wellFormed => ?_⟩, fun malformed => ?_⟩
  · have there := set.mpr wellFormed
    refine ⟨there, fun k named only => ?_⟩
    obtain ⟨front, back, split, -⟩ := List.lookup_eq_some_iff.mp there
    have isThere : (name, value) ∈ vars.extend file := split ▸ List.mem_append_cons_self
    obtain ⟨⟨other, text⟩, member, names, last⟩ := exists_lastText? named isThere
    -- The variable that gives the setting last is the one that the line sets.
    have same : other = name := only (other, text) member names
    rw [same, extended] at member
    have held := Variables.lookup_extendBy_of_mem unset member
    rw [← extended, there] at held
    cases held
    exact Setting.reads_of_lastText? last loaded
  · rw [extended, Variables.extendBy_append_of_malformed malformed] at loaded
    exact loaded

def requiredVariables : Variables := [
  ("YQ_OPENAI_API_KEY", "sk-test"),
  ("YQ_PINECONE_API_KEY", "pc-test"),
  ("YQ_PINECONE_INDEX_HOST", "https://index")]

def malformedFile : String :=
  "YQ_PORT 8081\nYQ_CHAT_API_KEY=secret\n"

/-- Behind a line without an equals sign the secret is lost. -/
theorem not_takesEffect_lost_secret :
    ∃ s, loadEnvironment requiredVariables (some malformedFile) = .ok s ∧ s.secret = none ∧
      (TakesEffect (requiredVariables.extend malformedFile) s "YQ_CHAT_API_KEY" "secret" ↔
        ∀ earlier ∈ [some "YQ_PORT 8081".toList], isMalformed earlier = false) ∧
      ¬TakesEffect (requiredVariables.extend malformedFile) s "YQ_CHAT_API_KEY" "secret" := by
  obtain ⟨s, loaded, secret⟩ :
      ∃ s, loadEnvironment requiredVariables (some malformedFile) = .ok s ∧ s.secret = none :=
    ⟨_, rfl, rfl⟩
  have lines : logicalLines malformedFile =
      [some "YQ_PORT 8081".toList] ++ some "YQ_CHAT_API_KEY=secret".toList :: [] := by
    decide
  have assigns : readLine (requiredVariables.extendBy [some "YQ_PORT 8081".toList]).valueOf
      "YQ_CHAT_API_KEY=secret".toList = .assignment "YQ_CHAT_API_KEY" "secret" := by
    decide
  have effect := (takesEffect_iff lines assigns (by decide) (by decide) loaded).1
  refine ⟨s, loaded, secret, effect, ?_⟩
  rw [effect]
  decide

end CitedAnswers.Settings
