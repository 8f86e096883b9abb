import CitedAnswers.Chat.Completion
import CitedAnswers.Proofs.Settings.CountSettings

/-! # Documents over the defaults

A document may give settings values of their own kinds, and anything to names that are no settings
(`Fitting`).  Settings come out of it if and only if it gives the three that have no default.  Each
setting is then what the document gives it, or else its default (`Layered`), whatever it gives to
others (`loadJson_layered`).
-/

namespace CitedAnswers.Settings

open CitedAnswers.Json (Numeric)
open CitedAnswers.Number (Binary Binary32 Binary64)

/-! ## Settings with and without defaults -/

/-- The default of a setting that is a text, if it has one. -/
def TextSetting.default? : TextSetting → Option String
  | logLevel => some "info"
  | secret => none
  | modelId => some "YQ Answers"
  | modelKey => none
  | modelUrl => some "https://api.openai.com/v1"
  | embeddingModel => some "text-embedding-3-large"
  | chatModel => some "gpt-4o-mini"
  | indexKey => none
  | indexHost => none
  | indexNamespace => some "ns1"
  | analyzerUrl => some "http://localhost:5002"
  | anonymizerUrl => some "http://localhost:5001"
  | language => some "en"
  | logPath => some "chat_history.csv"

/-- The settings that have no default and must not be missing. -/
def TextSetting.required : List TextSetting := [modelKey, indexKey, indexHost]

namespace CountSetting

def default : CountSetting → Nat
  | listenPort => 8080
  | topK => 3
  | timeoutSeconds => 60

/-- The greatest count that a document gives a setting as one of its own kind. -/
def greatest : CountSetting → Nat
  | listenPort => 2 ^ 16 - 1
  | topK => 2 ^ 63 - 1
  | timeoutSeconds => 2 ^ 63 - 1

end CountSetting

/-- The double that a number of a document stands for. -/
def doubleOf : Numeric → Binary64
  | .whole n => Binary.ofInt n
  | .double x => x
  | .single x => x.convert

/-! ## What is given, or else the default -/

/-- The text that a document leaves a setting with, by the value that it gives the setting. -/
def TextSetting.layered? (k : TextSetting) : Option Json → Option String
  | some (.string t) => some t
  | _ => k.default?

def CountSetting.layered (k : CountSetting) : Option Json → Nat
  | some (.number (.whole n)) => n.toNat
  | _ => k.default

/-- The temperature that a document leaves, rounded to single precision. -/
def layeredTemperature : Option Json → Binary32
  | some (.number x) => (doubleOf x).convert
  | _ => Chat.defaultTemperature

/-- Settings that are what a document gives them, and otherwise their defaults. -/
structure Layered (members : List (String × Json)) (s : Settings) : Prop where
  text : ∀ k : TextSetting, k.valueIn s = k.layered? (members.lookup k.key)
  count : ∀ k : CountSetting, k.valueIn s = k.layered (members.lookup k.key)
  temperature : s.temperature = layeredTemperature (members.lookup "temperature")

/-- Whether two settings agree in one of them. -/
def Setting.Same (s s' : Settings) : Setting → Prop
  | text k => k.valueIn s = k.valueIn s'
  | count k => k.valueIn s = k.valueIn s'
  | temperature => s.temperature = s'.temperature

/-- What a setting is depends on what the document gives it, and on nothing else. -/
theorem Layered.same {members members' : List (String × Json)} {s s' : Settings}
    (layered : Layered members s) (layered' : Layered members' s') {k : Setting}
    (given : members.lookup k.key = members'.lookup k.key) : k.Same s s' := by
  cases k with
  | text k =>
    show k.valueIn s = k.valueIn s'
    calc
      k.valueIn s = k.layered? (members.lookup k.key) := layered.text k
      _ = k.layered? (members'.lookup k.key) := congrArg k.layered? given
      _ = k.valueIn s' := (layered'.text k).symm
  | count k =>
    show k.valueIn s = k.valueIn s'
    calc
      k.valueIn s = k.layered (members.lookup k.key) := layered.count k
      _ = k.layered (members'.lookup k.key) := congrArg k.layered given
      _ = k.valueIn s' := (layered'.count k).symm
  | temperature =>
    show s.temperature = s'.temperature
    calc
      s.temperature = layeredTemperature (members.lookup "temperature") := layered.temperature
      _ = layeredTemperature (members'.lookup "temperature") := congrArg layeredTemperature given
      _ = s'.temperature := layered'.temperature.symm

theorem TextSetting.mem_required {k : TextSetting} {given : Option Json} (asked : k ≠ .secret)
    (missing : k.layered? given = none) : k ∈ required := by
  unfold layered? at missing
  split at missing
  · cases missing
  · cases k with
    | secret => exact absurd rfl asked
    | modelKey | indexKey | indexHost => decide
    | logLevel | modelId | modelUrl | embeddingModel | chatModel | indexNamespace | analyzerUrl
    | anonymizerUrl | language | logPath => cases missing

/-- A setting that must not be missing has a text, but no default. -/
theorem TextSetting.valueIn_ne_default? {k : TextSetting} (isRequired : k ∈ required)
    (s : Settings) : k.valueIn s ≠ k.default? := by
  simp only [required, List.mem_cons, List.not_mem_nil, or_false] at isRequired
  rcases isRequired with rfl | rfl | rfl <;> exact Option.some_ne_none _

/-! ## Readings of numbers -/

theorem readReal_ofNumber (x : Numeric) : readReal (.ofNumber x) = .ok (doubleOf x) := by
  cases x with
  | whole n =>
    unfold Value.ofNumber
    dsimp only
    split <;> rfl
  | double x => rfl
  | single x => rfl

theorem readCount_natural {n : Nat} (signed : n < 2 ^ 63) :
    readCount (.ofNumber (.whole n)) = .ok n := by
  have isInt : isInt64 n = true := isInt64_eq_true_iff.mpr ⟨by omega, by omega⟩
  unfold Value.ofNumber
  dsimp only
  rw [if_pos isInt, readCount, if_pos (Int.natCast_nonneg n), Int.toNat_natCast]

theorem CountSetting.held_of_le_greatest {k : CountSetting} {n : Nat} (small : n ≤ k.greatest) :
    k.held n = n ∧ n < 2 ^ 63 := by
  unfold greatest at small
  unfold held
  cases k with
  | listenPort | topK | timeoutSeconds =>
    dsimp only at small ⊢
    omega

theorem ofNumber_ne_table (x : Numeric) (isEmpty : Bool) : Value.ofNumber x ≠ .table isEmpty := by
  unfold Value.ofNumber
  cases x with
  | whole n =>
    dsimp only
    split <;> exact Value.noConfusion
  | double x => exact Value.noConfusion
  | single x => exact Value.noConfusion

/-! ## Documents -/

/-- Members of a document that give each setting a value of its own kind, if they give it any.
Names that are no settings may have any value; none addresses a part. -/
structure Fitting (members : List (String × Json)) : Prop where
  text : ∀ (k : TextSetting) (value : Json), (k.key, value) ∈ members → ∃ t, value = .string t
  count : ∀ (k : CountSetting) (value : Json), (k.key, value) ∈ members →
    ∃ n : Nat, value = .number (.whole n) ∧ n ≤ k.greatest
  temperature : ∀ value : Json, ("temperature", value) ∈ members → ∃ x, value = .number x
  whole : ∀ entry ∈ members, '.' ∉ entry.1.toList ∧ '[' ∉ entry.1.toList

section Documents

variable {members : List (String × Json)} {s : Settings}

/-- Members may be left out. -/
theorem Fitting.of_subset {members' : List (String × Json)} (fitting : Fitting members)
    (subset : members' ⊆ members) : Fitting members' where
  text k value member := fitting.text k value (subset member)
  count k value member := fitting.count k value (subset member)
  temperature value member := fitting.temperature value (subset member)
  whole entry member := fitting.whole entry (subset member)

theorem mem_of_lookup {key : String} {value : Json} (found : members.lookup key = some value) :
    (key, value) ∈ members := by
  obtain ⟨before, after, rfl, -⟩ := List.lookup_eq_some_iff.mp found
  exact List.mem_append_cons_self

/-- The defaults with a document over them. -/
def documentLayer (members : List (String × Json)) : Layer :=
  defaults.assignAll (documentAssignments (.object members))

theorem Fitting.scalar (fitting : Fitting members) (k : Setting) {value : Json}
    (member : (k.key, value) ∈ members) (isEmpty : Bool) :
    Value.ofJson value ≠ .table isEmpty := by
  cases k with
  | text k =>
    obtain ⟨t, rfl⟩ := fitting.text k value member
    exact Value.noConfusion
  | count k =>
    obtain ⟨n, rfl, -⟩ := fitting.count k value member
    exact ofNumber_ne_table (.whole n) isEmpty
  | temperature =>
    obtain ⟨x, rfl⟩ := fitting.temperature value member
    exact ofNumber_ne_table x isEmpty

theorem lookup_documentLayer (ordered : members.Pairwise fun a b => a.1 < b.1)
    (fitting : Fitting members) (k : Setting) :
    (documentLayer members).lookup k.key =
      ((members.lookup k.key).map fun value => ⟨.ofJson value, false⟩).or
        (defaults.lookup k.key) := by
  have whole : ∀ a ∈ documentAssignments (.object members), (Key.ofText a.key).part = none := by
    intro a member
    obtain ⟨entry, isThere, rfl⟩ := List.mem_map.mp member
    obtain ⟨noMember, noItem⟩ := fitting.whole entry isThere
    exact congrArg Key.part (Key.ofText_of_not_mem noMember noItem)
  have scalar : ∀ a ∈ documentAssignments (.object members), a.key = k.key →
      ∀ isEmpty, a.given.value ≠ .table isEmpty := by
    intro a member named
    obtain ⟨entry, isThere, rfl⟩ := List.mem_map.mp member
    exact fitting.scalar k (named ▸ isThere)
  rw [documentLayer, Layer.lookup_assignAll_of_whole defaults whole scalar]
  cases found : members.lookup k.key with
  | some value => rw [lastGiven?_documentAssignments ordered found, Option.map_some]
  | none =>
    have absent : lastGiven? k.key (documentAssignments (.object members)) = none := by
      rw [lastGiven?_eq_none_iff]
      intro a member named
      obtain ⟨entry, isThere, rfl⟩ := List.mem_map.mp member
      exact bne_iff_ne.mp (List.lookup_eq_none_iff.mp found entry isThere) named.symm
    rw [absent, Option.map_none]

theorem lookup_documentLayer_of_some (ordered : members.Pairwise fun a b => a.1 < b.1)
    (fitting : Fitting members) (k : Setting) {value : Json}
    (given : members.lookup k.key = some value) :
    (documentLayer members).lookup k.key = some ⟨.ofJson value, false⟩ := by
  rw [lookup_documentLayer ordered fitting k, given]
  rfl

theorem lookup_documentLayer_of_none (ordered : members.Pairwise fun a b => a.1 < b.1)
    (fitting : Fitting members) (k : Setting) (absent : members.lookup k.key = none) :
    (documentLayer members).lookup k.key = defaults.lookup k.key := by
  rw [lookup_documentLayer ordered fitting k, absent]
  rfl

/-! ### Defaults -/

theorem TextSetting.lookup_defaults (k : TextSetting) :
    defaults.lookup k.key = k.default?.map fun t => ⟨.text t, false⟩ := by
  cases k <;> rfl

theorem CountSetting.lookup_defaults (k : CountSetting) :
    defaults.lookup k.key = some ⟨.int k.default, false⟩ := by
  cases k <;> rfl

theorem lookup_defaults_temperature :
    defaults.lookup "temperature" = some ⟨.real (Binary.ofQuotient false 3 10), false⟩ := rfl

theorem convert_defaultTemperature :
    (Binary.ofQuotient false 3 10 : Binary64).convert = Chat.defaultTemperature := by
  decide +kernel

/-! ### Readings -/

section Readings

variable (ordered : members.Pairwise fun a b => a.1 < b.1) (fitting : Fitting members)

include ordered fitting

theorem lookup_text (k : TextSetting) :
    (documentLayer members).lookup k.key =
      (k.layered? (members.lookup k.key)).map fun t => ⟨.text t, false⟩ := by
  cases found : members.lookup k.key with
  | some value =>
    obtain ⟨t, rfl⟩ := fitting.text k value (mem_of_lookup found)
    exact lookup_documentLayer_of_some ordered fitting (.text k) found
  | none =>
    exact (lookup_documentLayer_of_none ordered fitting (.text k) found).trans k.lookup_defaults

theorem readText_documentLayer (k : TextSetting) :
    read? readText (documentLayer members) k.key = .ok (k.layered? (members.lookup k.key)) := by
  rw [read?, lookup_text ordered fitting k]
  cases k.layered? (members.lookup k.key) <;> rfl

theorem readSecret_documentLayer :
    read? readText? (documentLayer members) TextSetting.secret.key =
      .ok ((TextSetting.secret.layered? (members.lookup TextSetting.secret.key)).map some) := by
  rw [read?, lookup_text ordered fitting .secret]
  cases TextSetting.secret.layered? (members.lookup TextSetting.secret.key) <;> rfl

/-- The count that a document leaves is one that the setting holds as it is. -/
theorem readCount_documentLayer (k : CountSetting) :
    read? readCount (documentLayer members) k.key =
        .ok (some (k.layered (members.lookup k.key))) ∧
      k.held (k.layered (members.lookup k.key)) = k.layered (members.lookup k.key) := by
  cases found : members.lookup k.key with
  | some value =>
    obtain ⟨n, rfl, small⟩ := fitting.count k value (mem_of_lookup found)
    have there := lookup_documentLayer_of_some ordered fitting (.count k) found
    obtain ⟨kept, signed⟩ := CountSetting.held_of_le_greatest small
    exact ⟨read?_of_some there (readCount_natural signed), kept⟩
  | none =>
    have there := (lookup_documentLayer_of_none ordered fitting (.count k) found).trans
      k.lookup_defaults
    refine ⟨read?_of_some there ?_, ?_⟩
    · cases k <;> rfl
    · cases k <;> rfl

theorem readReal_documentLayer :
    ∃ x, read? readReal (documentLayer members) "temperature" = .ok (some x) ∧
      x.convert = layeredTemperature (members.lookup "temperature") := by
  cases found : members.lookup "temperature" with
  | some value =>
    obtain ⟨x, rfl⟩ := fitting.temperature value (mem_of_lookup found)
    have there := lookup_documentLayer_of_some ordered fitting .temperature found
    exact ⟨doubleOf x, read?_of_some there (readReal_ofNumber x), rfl⟩
  | none =>
    have there := (lookup_documentLayer_of_none ordered fitting .temperature found).trans
      lookup_defaults_temperature
    exact ⟨_, read?_of_some there rfl, convert_defaultTemperature⟩

theorem layered_of_heldBy (held : HeldBy (documentLayer members) s) : Layered members s where
  text k := by
    by_cases asked : k = .secret
    · subst asked
      obtain ⟨secret, read, joined⟩ := held.secret
      rw [TextSetting.valueIn, joined,
        ← Except.ok.inj ((readSecret_documentLayer ordered fitting).symm.trans read)]
      cases TextSetting.secret.layered? (members.lookup TextSetting.secret.key) <;> rfl
    · exact Except.ok.inj ((held.readText_eq asked).symm.trans
        (readText_documentLayer ordered fitting k))
  count k := by
    obtain ⟨n, read, value⟩ := held.exists_count k
    obtain ⟨layered, kept⟩ := readCount_documentLayer ordered fitting k
    cases layered.symm.trans read
    rw [value, kept]
  temperature := by
    obtain ⟨x, read, value⟩ := held.temperature
    obtain ⟨y, layered, same⟩ := readReal_documentLayer ordered fitting
    cases layered.symm.trans read
    rw [value, same]

/-- A document that gives the settings without defaults leaves a layer that holds settings. -/
theorem exists_heldBy_documentLayer
    (given : ∀ k ∈ TextSetting.required, (members.lookup k.key).isSome) :
    ∃ s, HeldBy (documentLayer members) s := by
  refine exists_heldBy ?texts ⟨_, readSecret_documentLayer ordered fitting⟩
    (fun k => ⟨_, (readCount_documentLayer ordered fitting k).1⟩) ?temperature
  case texts =>
    intro k
    have read := readText_documentLayer ordered fitting k
    cases layered : k.layered? (members.lookup k.key) with
    | some t => exact ⟨t, fun _ => layered ▸ read⟩
    | none =>
      refine ⟨"", fun asked => ?_⟩
      -- A setting that is asked for and has no default is given a text.
      obtain ⟨value, found⟩ := Option.isSome_iff_exists.mp
        (given k (TextSetting.mem_required asked layered))
      obtain ⟨t, rfl⟩ := fitting.text k value (mem_of_lookup found)
      rw [found] at layered
      cases layered
  case temperature =>
    obtain ⟨x, read, -⟩ := readReal_documentLayer ordered fitting
    exact ⟨x, read⟩

end Readings

end Documents

/-! ## Loading -/

theorem loadJson_eq {text : String} {members : List (String × Json)}
    (parsed : Json.parse text = .ok (.object members)) :
    loadJson text = ofLayer (documentLayer members) := by
  rw [loadJson, parsed]
  rfl

theorem layered_of_loadJson {text : String} {members : List (String × Json)} {s : Settings}
    (parsed : Json.parse text = .ok (.object members)) (fitting : Fitting members)
    (loaded : loadJson text = .ok s) : Layered members s := by
  rw [loadJson_eq parsed] at loaded
  exact layered_of_heldBy (Json.pairwise_of_parse parsed) fitting (heldBy_of_ofLayer loaded)

/-- Settings come out of a document that fits if and only if it gives the three that have no
default.  They are then what the document gives them and otherwise their defaults, and a setting is
the same with every other document that gives it the same or leaves it out as well. -/
theorem loadJson_layered {text : String} {members : List (String × Json)}
    (parsed : Json.parse text = .ok (.object members)) (fitting : Fitting members) :
    ((∃ s, loadJson text = .ok s) ↔
        ∀ k ∈ TextSetting.required, (members.lookup k.key).isSome) ∧
      ∀ s, loadJson text = .ok s → Layered members s ∧
        ∀ text' members' s', Json.parse text' = .ok (.object members') → Fitting members' →
          loadJson text' = .ok s' →
            ∀ k : Setting, members.lookup k.key = members'.lookup k.key → k.Same s s' := by
  refine ⟨⟨?loaded, ?given⟩, ?settings⟩
  case loaded =>
    rintro ⟨s, loaded⟩ k isRequired
    rw [Option.isSome_iff_ne_none]
    intro absent
    have value := (layered_of_loadJson parsed fitting loaded).text k
    rw [absent] at value
    exact TextSetting.valueIn_ne_default? isRequired s value
  case given =>
    intro given
    obtain ⟨s, held⟩ :=
      exists_heldBy_documentLayer (Json.pairwise_of_parse parsed) fitting given
    rw [loadJson_eq parsed]
    exact ⟨s, ofLayer_of_heldBy held⟩
  case settings =>
    intro s loaded
    have layered := layered_of_loadJson parsed fitting loaded
    refine ⟨layered, ?_⟩
    intro text' members' s' parsed' fitting' loaded' k given
    exact layered.same (layered_of_loadJson parsed' fitting' loaded') given

/-- A document with an empty secret, the greatest counts and a name that is no setting. -/
def notedDocument : String :=
  "\x7b\"openai_api_key\":\"sk-test\",\"pinecone_api_key\":\"pc-test\"," ++
    "\"pinecone_index_host\":\"https://index\",\"port\":65535," ++
    "\"top_k\":9223372036854775807,\"temperature\":1,\"chat_api_key\":\"\"," ++
    "\"notes\":\x7b\"port\":80\x7d\x7d"

def requiredDocument : String :=
  "\x7b\"openai_api_key\":\"sk-test\",\"pinecone_api_key\":\"pc-test\"," ++
    "\"pinecone_index_host\":\"https://index\"\x7d"

def requiredMembers : List (String × Json) := [
  ("openai_api_key", .string "sk-test"),
  ("pinecone_api_key", .string "pc-test"),
  ("pinecone_index_host", .string "https://index")]

def notedMembers : List (String × Json) :=
  ("chat_api_key", .string "") ::
    ("notes", .object [("port", .number (.whole 80))]) ::
      requiredMembers ++ [
        ("port", .number (.whole 65535)),
        ("temperature", .number (.whole 1)),
        ("top_k", .number (.whole 9223372036854775807))]

theorem fitting_notedMembers : Fitting notedMembers := by
  constructor
  case text =>
    intro k value member
    cases k <;> simp_all [notedMembers, requiredMembers, TextSetting.key]
  case count =>
    intro k value member
    cases k with
    | listenPort =>
      refine ⟨65535, ?_, by decide⟩
      simpa [notedMembers, requiredMembers, CountSetting.key] using member
    | topK =>
      refine ⟨9223372036854775807, ?_, by decide⟩
      simpa [notedMembers, requiredMembers, CountSetting.key] using member
    | timeoutSeconds => simp [notedMembers, requiredMembers, CountSetting.key] at member
  case temperature =>
    intro value member
    simp_all [notedMembers, requiredMembers]
  case whole => decide

/-- The required settings are the same where the others are left out. -/
theorem loadJson_layered_noted :
    ∃ s s', loadJson notedDocument = .ok s ∧ loadJson requiredDocument = .ok s' ∧
      s.secret = some "" ∧ s.listenPort = 65535 ∧ s.topK = 2 ^ 63 - 1 ∧
      s.modelId = "YQ Answers" ∧ s.modelKey = s'.modelKey := by
  have subset : requiredMembers ⊆ notedMembers := by
    intro entry member
    exact List.mem_cons_of_mem _ (List.mem_cons_of_mem _ (List.mem_append_left _ member))
  have fitting' := fitting_notedMembers.of_subset subset
  have parsed' : Json.parse requiredDocument = .ok (.object requiredMembers) := by cbv
  have parsed : Json.parse notedDocument = .ok (.object notedMembers) := by cbv
  obtain ⟨loads, settings⟩ := loadJson_layered parsed fitting_notedMembers
  obtain ⟨loads', -⟩ := loadJson_layered parsed' fitting'
  obtain ⟨s, loaded⟩ := loads.mpr (by decide)
  obtain ⟨s', loaded'⟩ := loads'.mpr (by decide)
  obtain ⟨layered, same⟩ := settings s loaded
  have agree := same requiredDocument requiredMembers s' parsed' fitting' loaded'
  have key : some s.modelKey = some s'.modelKey := agree (.text .modelKey) rfl
  refine ⟨s, s', loaded, loaded', ?_, ?_, ?_, ?_, ?_⟩
  · exact layered.text .secret
  · exact layered.count .listenPort
  · exact layered.count .topK
  · exact Option.some.inj (layered.text .modelId)
  · exact Option.some.inj key

end CitedAnswers.Settings
