import CitedAnswers.Proofs.Environment.Adding
import CitedAnswers.Proofs.Settings.FileSettings

/-! # Precedence among variables

What is loaded from an environment depends, for each setting, on the variables that bear on it and
on their order only (`load_congr`).  Where no two variables bear on one setting, the order in which
variables are set does not matter at all (`loadVariables_perm`).

A file of variables comes behind the environment, and in it the first assignment to a name counts.
So settings are loaded from an environment and a file as they are from the one environment that has
both (`loadEnvironment_eq_added`).
-/

namespace CitedAnswers.Settings

open CitedAnswers.Environment (IsLiteral Variables assignments isMalformed logicalLines readLine)

/-! ## What a layer is read for -/

/-- Settings are read from what a layer holds under their keys. -/
theorem ofLayer_congr {layer layer' : Layer}
    (same : ∀ k : Setting, layer.lookup k.key = layer'.lookup k.key) :
    ofLayer layer = ofLayer layer' := by
  have read {α : Type} (reading : Reading α) (key : String) (k : Setting) (named : k.key = key) :
      read? reading layer key = read? reading layer' key := by
    rw [← named, read?, read?, same k]
  unfold ofLayer
  rw [read readCount "port" (.count .listenPort) rfl,
    read readText "log_level" (.text .logLevel) rfl,
    read readText? "chat_api_key" (.text .secret) rfl,
    read readText "model_id" (.text .modelId) rfl,
    read readText "openai_api_key" (.text .modelKey) rfl,
    read readText "openai_base_url" (.text .modelUrl) rfl,
    read readText "embedding_model" (.text .embeddingModel) rfl,
    read readText "chat_model" (.text .chatModel) rfl,
    read readReal "temperature" .temperature rfl,
    read readText "pinecone_api_key" (.text .indexKey) rfl,
    read readText "pinecone_index_host" (.text .indexHost) rfl,
    read readText "pinecone_namespace" (.text .indexNamespace) rfl,
    read readCount "top_k" (.count .topK) rfl,
    read readText "presidio_analyzer_url" (.text .analyzerUrl) rfl,
    read readText "presidio_anonymizer_url" (.text .anonymizerUrl) rfl,
    read readText "pii_language" (.text .language) rfl,
    read readText "exchange_log_path" (.text .logPath) rfl,
    read readCount "request_timeout_secs" (.count .timeoutSeconds) rfl]

/-! ## What bears on a setting -/

/-- Whether an assignment is one to a setting, or to a part of it. -/
def bearsOn (key : String) (a : Assignment) : Bool :=
  (Key.ofText a.key).name = key

namespace Layer

theorem lookup_assign_congr {layer layer' : Layer} {key : String}
    (same : layer.lookup key = layer'.lookup key) (a : Assignment) :
    (layer.assign a).lookup key = (layer'.assign a).lookup key := by
  by_cases named : key = (Key.ofText a.key).name
  · subst named
    unfold assign
    dsimp only
    split
    · rw [Association.lookup_put, Association.lookup_put, if_pos rfl, if_pos rfl]
    · rw [Association.lookup_put, Association.lookup_put, if_pos rfl, if_pos rfl]
    · split
      · -- An empty table changes nothing exactly if something is there.
        rw [same]
        split
        · exact same
        · rw [Association.lookup_put, Association.lookup_put, if_pos rfl, if_pos rfl]
      · rw [Association.lookup_put, Association.lookup_put, if_pos rfl, if_pos rfl]
  · rw [lookup_assign_of_ne named, lookup_assign_of_ne named, same]

theorem lookup_assignAll_filter (layer : Layer) (key : String) (assignments : List Assignment) :
    (layer.assignAll (assignments.filter (bearsOn key))).lookup key =
      (layer.assignAll assignments).lookup key := by
  induction assignments using List.reverseRecOn with
  | nil => rfl
  | append_singleton assignments a ih =>
    rw [List.filter_append, assignAll_concat]
    by_cases bears : bearsOn key a = true
    · rw [List.filter_cons_of_pos bears, List.filter_nil, assignAll_concat]
      exact lookup_assign_congr ih a
    · have other : key ≠ (Key.ofText a.key).name := fun named =>
        bears (decide_eq_true named.symm)
      rw [List.filter_cons_of_neg bears, List.filter_nil, List.append_nil, ih,
        lookup_assign_of_ne other]

end Layer

/-- What is loaded depends, for each setting, on the assignments that bear on it only. -/
theorem load_congr {assignments assignments' : List Assignment}
    (same : ∀ k : Setting, assignments.filter (bearsOn k.key) =
      assignments'.filter (bearsOn k.key)) :
    load assignments = load assignments' := by
  apply ofLayer_congr
  intro k
  rw [← Layer.lookup_assignAll_filter defaults k.key assignments, same k,
    Layer.lookup_assignAll_filter]

/-! ## Variables in any order -/

/-- The setting, known or not, that a variable gives as a whole or in part. -/
def subject? (name : String) : Option String :=
  (settingOf? name).map fun key => (Key.ofText key).name

/-- Whether no two variables bear on one setting. -/
def Apart (vars : Variables) : Prop :=
  vars.Pairwise fun a b => ∀ k : Setting, ¬(subject? a.1 = some k.key ∧ subject? b.1 = some k.key)

theorem variableAssignments_cons (name value : String) (vars : Variables) :
    variableAssignments ((name, value) :: vars) =
      (variableAssignment? name value).toList ++ variableAssignments vars := by
  unfold variableAssignments
  cases assigned : variableAssignment? name value <;> simp [assigned]

theorem filter_variableAssignments (vars : Variables) (key : String) :
    (variableAssignments vars).filter (bearsOn key) =
      variableAssignments (vars.filter fun entry => subject? entry.1 = some key) := by
  induction vars with
  | nil => rfl
  | cons entry rest ih =>
    obtain ⟨name, value⟩ := entry
    rw [variableAssignments_cons, List.filter_append, ih, variableAssignment?_eq]
    by_cases bears : subject? name = some key
    · obtain ⟨setting, named, same⟩ := Option.map_eq_some_iff.mp bears
      rw [List.filter_cons, if_pos (decide_eq_true bears), variableAssignments_cons,
        variableAssignment?_eq, named]
      simp [bearsOn, same]
    · rw [List.filter_cons, if_neg (mt of_decide_eq_true bears)]
      -- A variable that bears on another setting assigns to that, if it assigns anything.
      cases named : settingOf? name with
      | none => rfl
      | some setting =>
        have other : (Key.ofText setting).name ≠ key := by
          intro same
          exact bears (by rw [subject?, named, Option.map_some, same])
        simp [bearsOn, other]

/-- Of entries in another order, those of a kind are the same where there is at most one. -/
theorem filter_eq_of_perm {α : Type} {l l' : List α} {p : α → Bool} (perm : l.Perm l')
    (single : l'.Pairwise fun a b => ¬(p a = true ∧ p b = true)) : l.filter p = l'.filter p := by
  have kept : (l.filter p).Perm (l'.filter p) := perm.filter p
  have isKind : ∀ a ∈ l'.filter p, p a = true := fun a member => (List.mem_filter.mp member).2
  have apart := single.filter p
  cases found : l'.filter p with
  | nil =>
    rw [found] at kept
    exact kept.eq_nil
  | cons a rest =>
    rw [found] at kept isKind apart
    cases rest with
    | nil => exact kept.eq_singleton
    | cons b rest =>
      have clash := (List.pairwise_cons.mp apart).1 b List.mem_cons_self
      exact absurd ⟨isKind a List.mem_cons_self,
        isKind b (List.mem_cons_of_mem _ List.mem_cons_self)⟩ clash

/-- Where no two variables bear on one setting, their order does not matter. -/
theorem loadVariables_perm {vars vars' : Variables} (perm : vars.Perm vars')
    (apart : Apart vars') : loadVariables vars = loadVariables vars' := by
  apply load_congr
  intro k
  rw [filter_variableAssignments, filter_variableAssignments]
  refine congrArg variableAssignments (filter_eq_of_perm perm (apart.imp ?_))
  intro a b clear both
  exact clear k ⟨of_decide_eq_true both.1, of_decide_eq_true both.2⟩

/-- Variables with names that differ in more than case, none of which addresses a part of a setting,
bear on different settings. -/
theorem apart_of_distinct {vars : Variables}
    (distinct : vars.Pairwise fun a b => Text.lower a.1.toList ≠ Text.lower b.1.toList)
    (whole : ∀ entry ∈ vars, ∀ key, settingOf? entry.1 = some key → (Key.ofText key).part = none) :
    Apart vars := by
  have spelling : ∀ entry ∈ vars, ∀ k : Setting, subject? entry.1 = some k.key →
      Text.lower entry.1.toList = variablePrefix ++ k.key.toList := by
    intro entry member k subject
    obtain ⟨key, named, same⟩ := Option.map_eq_some_iff.mp subject
    rw [Key.name_of_whole (whole entry member key named)] at same
    obtain ⟨behind, found, text⟩ := Option.map_eq_some_iff.mp named
    rw [Text.behind?_eq_some_iff.mp found, ← same, ← text, String.toList_ofList]
  refine distinct.imp_of_mem ?_
  intro a b first second differ k both
  rw [spelling a first k both.1, spelling b second k both.2] at differ
  exact differ rfl

/-! ## Environments with a file -/

/-- Where every line of a file is well-formed and puts in no variables, settings are loaded as from
the environment that has, behind its own variables, the first assignment of the file to each name
that is not set; and in any other order as well, if no two of these variables bear on one
setting. -/
theorem loadEnvironment_eq_added {vars : Variables} {file : String}
    (wellFormed : ∀ line ∈ logicalLines file, isMalformed line = false)
    (literal : ∀ line, some line ∈ logicalLines file → IsLiteral line) :
    let added := vars ++ vars.additions (assignments (logicalLines file))
    loadEnvironment vars (some file) = loadEnvironment added none ∧
      ∀ environment : Variables, environment.Perm added → Apart environment →
        loadEnvironment vars (some file) = loadEnvironment environment none := by
  intro added
  have extended : loadEnvironment vars (some file) = loadVariables added :=
    congrArg loadVariables (Variables.extendBy_eq_append wellFormed literal)
  refine ⟨extended, fun environment perm apart => ?_⟩
  rw [extended]
  exact loadVariables_perm perm.symm apart

/-- An environment in which the secret is set to nothing. -/
def openVariables : Variables :=
  ("YQ_CHAT_API_KEY", "") :: requiredVariables

/-- A file with a comment, blanks, quotes and a name that is assigned to twice. -/
def variedFile : String :=
  "# settings\nexport YQ_MODEL_ID='cost: $5'\nYQ_MODEL_ID=other\n\n" ++
    "YQ_CHAT_API_KEY=secret # lost\nYQ_TOP_K = \"7\"\n"

theorem loadEnvironment_eq_added_varied :
    ∃ s, loadEnvironment openVariables (some variedFile) = .ok s ∧ s.secret = some "" ∧
      s.modelId = "cost: $5" ∧ s.topK = 7 ∧
      loadEnvironment openVariables (some variedFile) =
        loadEnvironment
          (("YQ_TOP_K", "7") :: ("YQ_MODEL_ID", "cost: $5") :: openVariables) none := by
  have lines : logicalLines variedFile = [some [], some "export YQ_MODEL_ID='cost: $5'".toList,
      some "YQ_MODEL_ID=other".toList, some [], some "YQ_CHAT_API_KEY=secret ".toList,
      some "YQ_TOP_K = \"7\"".toList] := by
    decide
  have quoted : IsLiteral "export YQ_MODEL_ID='cost: $5'".toList := fun valueOf => rfl
  have literal : ∀ line, some line ∈ logicalLines variedFile → IsLiteral line := by
    rw [lines]
    intro line member
    simp only [List.mem_cons, Option.some.injEq, List.not_mem_nil, or_false] at member
    rcases member with rfl | rfl | rfl | rfl | rfl | rfl
    · exact Environment.isLiteral_of_not_mem (by decide)
    · exact quoted
    all_goals exact Environment.isLiteral_of_not_mem (by decide)
  have wellFormed : ∀ line ∈ logicalLines variedFile, isMalformed line = false := by
    rw [lines]
    decide
  have anyOrder := (@loadEnvironment_eq_added openVariables variedFile wellFormed literal).2
  obtain ⟨s, loaded, secret, model, count⟩ : ∃ s,
      loadEnvironment openVariables (some variedFile) = .ok s ∧ s.secret = some "" ∧
        s.modelId = "cost: $5" ∧ s.topK = 7 := ⟨_, rfl, rfl, rfl, rfl⟩
  refine ⟨s, loaded, secret, model, count, anyOrder _ ?_ (apart_of_distinct ?_ ?_)⟩
  · decide
  · decide
  · decide

end CitedAnswers.Settings
