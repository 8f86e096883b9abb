import CitedAnswers.Proofs.Environment.Extending
import CitedAnswers.Proofs.Settings.Kinds
import CitedAnswers.Proofs.Settings.Verbatim

/-! # Text settings from the environment

A text setting that a variable gives is the text that was given to it last, written anew, whatever
else the environment and the file of variables hold (`valueIn_of_lastText?`).  The variable gives
the setting exactly the characters it holds if and only if they are verbatim
(`valueIn_eq_some_iff`): a secret of digits loses its leading zeros, and one with an exponent loses
the exponent.
-/

namespace CitedAnswers.Settings

open CitedAnswers.Environment (Variables)

/-! ## Variables -/

def TextSetting.variableName (k : TextSetting) : String :=
  String.ofList ("YQ_".toList ++ k.key.toList.map Char.toUpper)

def settingOf? (name : String) : Option String :=
  (Text.behind? variablePrefix (Text.lower name.toList)).map String.ofList

/-- The text that was given last to a setting. -/
def lastText? (key : String) (vars : Variables) : Option String :=
  ((vars.filter fun entry => settingOf? entry.1 = some key).getLast?).map Prod.snd

theorem TextSetting.settingOf?_variableName (k : TextSetting) :
    settingOf? k.variableName = some k.key := by
  cases k <;> rfl

theorem variableAssignment?_eq (name value : String) :
    variableAssignment? name value =
      (settingOf? name).map fun key => ⟨key, ⟨.ofText value, true⟩⟩ := by
  unfold variableAssignment? settingOf?
  rw [Option.map_map]
  rfl

theorem lastText?_concat (key : String) (vars : Variables) (name value : String) :
    lastText? key (vars ++ [(name, value)]) =
      if settingOf? name = some key then some value else lastText? key vars := by
  by_cases named : settingOf? name = some key <;> simp [lastText?, List.filter_append, named]

theorem lastGiven?_variableAssignments (key : String) (vars : Variables) :
    lastGiven? key (variableAssignments vars) =
      (lastText? key vars).map fun text => ⟨.ofText text, true⟩ := by
  induction vars using List.reverseRecOn with
  | nil => rfl
  | append_singleton vars entry ih =>
    obtain ⟨name, value⟩ := entry
    -- A variable that gives no setting assigns nothing.
    have split : variableAssignments (vars ++ [(name, value)]) =
        variableAssignments vars ++ (variableAssignment? name value).toList := by
      unfold variableAssignments
      rw [List.filterMap_append]
      cases assigned : variableAssignment? name value <;> simp [assigned]
    rw [split, variableAssignment?_eq, lastText?_concat]
    cases named : settingOf? name with
    | none => simpa using ih
    | some other =>
      rw [Option.map_some, Option.toList_some, lastGiven?_concat, ih]
      by_cases same : other = key <;> simp [same]

/-- If a variable gives a setting, some variable gives it last. -/
theorem exists_lastText? {key name value : String} {vars : Variables}
    (named : settingOf? name = some key) (member : (name, value) ∈ vars) :
    ∃ entry ∈ vars, settingOf? entry.1 = some key ∧ lastText? key vars = some entry.2 := by
  have given : (name, value) ∈ vars.filter fun entry => settingOf? entry.1 = some key :=
    List.mem_filter.mpr ⟨member, decide_eq_true named⟩
  cases last : (vars.filter fun entry => settingOf? entry.1 = some key).getLast? with
  | none =>
    rw [List.getLast?_eq_none_iff] at last
    rw [last] at given
    cases given
  | some entry =>
    obtain ⟨isThere, names⟩ := List.mem_filter.mp (List.mem_of_getLast? last)
    refine ⟨entry, isThere, of_decide_eq_true names, ?_⟩
    rw [lastText?, last]
    rfl

/-! ## Loading -/

/-- A setting that variables give is read from the text that was given to it last. -/
theorem Setting.reads_of_lastText? {k : Setting} {vars : Variables} {text : String} {s : Settings}
    (last : lastText? k.key vars = some text) (loaded : loadVariables vars = .ok s) :
    k.Reads s (.ofText text) := by
  have given := lastGiven?_variableAssignments k.key vars
  rw [last] at given
  refine reads_of_lastGiven? ?_ given loaded
  -- The value is a scalar, since a text can be read from it.
  intro isEmpty table
  have read := readText_ofText text
  rw [show Value.ofText text = .table isEmpty from table] at read
  cases read

/-- A text setting that variables give is the text that was given to it last, written anew. -/
theorem valueIn_of_lastText? {k : TextSetting} {vars : Variables} {text : String} {s : Settings}
    (last : lastText? k.key vars = some text) (loaded : loadVariables vars = .ok s) :
    k.valueIn s = some (written text) := by
  have read : readText? (.ofText text) = .ok (k.valueIn s) :=
    Setting.reads_of_lastText? (k := .text k) last loaded
  rw [readText?_of_readText (readText_ofText text)] at read
  exact (Except.ok.inj read).symm

/-- A variable gives its setting exactly the characters that it holds if and only if those that are
given last are written anew as them; for the only variable that gives the setting this is so if and
only if what it holds is verbatim. -/
theorem TextSetting.valueIn_eq_some_iff {k : TextSetting} {v : String} {vars : Variables}
    {file : Option String} {s : Settings} (set : (k.variableName, v) ∈ vars)
    (loaded : loadEnvironment vars file = .ok s) :
    (k.valueIn s = some v ↔
      ∃ text, lastText? k.key (file.elim vars vars.extend) = some text ∧ written text = v) ∧
    ((∀ entry ∈ file.elim vars vars.extend, settingOf? entry.1 = some k.key → entry.2 = v) →
      (k.valueIn s = some v ↔ Verbatim v)) := by
  have kept : vars ⊆ file.elim vars vars.extend := by
    cases file with
    | none => exact List.Subset.refl vars
    | some file => exact vars.subset_extendBy _
  obtain ⟨⟨name, text⟩, member, names, last⟩ :=
    exists_lastText? k.settingOf?_variableName (kept set)
  have value : k.valueIn s = some (written text) := valueIn_of_lastText? last loaded
  constructor
  · rw [value, last]
    constructor
    · intro same
      exact ⟨text, rfl, Option.some.inj same⟩
    · rintro ⟨other, same, wrote⟩
      cases same
      exact congrArg some wrote
  · intro only
    have same : text = v := only (name, text) member names
    rw [value, same, Option.some.injEq]
    exact written_eq_self_iff v

def numberedModel : Variables := [
  ("YQ_OPENAI_API_KEY", "sk-test"),
  ("YQ_PINECONE_API_KEY", "pc-test"),
  ("YQ_PINECONE_INDEX_HOST", "https://index"),
  ("YQ_MODEL_ID", "007")]

/-- The model loses the leading zeros of its name. -/
theorem TextSetting.not_verbatim_leading_zeros :
    ∃ s, loadEnvironment numberedModel none = .ok s ∧ modelId.valueIn s = some "7" ∧
      (modelId.valueIn s = some "007" ↔ Verbatim "007") ∧ ¬Verbatim "007" := by
  obtain ⟨s, loaded, value⟩ :
      ∃ s, loadEnvironment numberedModel none = .ok s ∧ modelId.valueIn s = some "7" :=
    ⟨_, rfl, rfl⟩
  have set : (modelId.variableName, "007") ∈ numberedModel := by decide
  have kept := (valueIn_eq_some_iff set loaded).2 (by decide)
  refine ⟨s, loaded, value, kept, ?_⟩
  intro verbatim
  rw [kept.mpr verbatim] at value
  exact absurd value (by decide)

end CitedAnswers.Settings
