import CitedAnswers.Proofs.Settings.Assigning
import CitedAnswers.Proofs.Settings.Reading
import Mathlib.Tactic.Choose

/-! # Settings by kind

A setting is a text, a count or the temperature, and each is read from a value in its own way
(`Setting.Reads`).  Settings that were loaded are read from the values that were given to them last
(`Setting.reads_of_lastGiven?`).
-/

namespace CitedAnswers.Settings

open CitedAnswers.Number (Binary64)

/-! ## Texts -/

/-- The settings that are texts. -/
inductive TextSetting where
  | logLevel
  | secret
  | modelId
  | modelKey
  | modelUrl
  | embeddingModel
  | chatModel
  | indexKey
  | indexHost
  | indexNamespace
  | analyzerUrl
  | anonymizerUrl
  | language
  | logPath
  deriving DecidableEq, Repr

namespace TextSetting

def key : TextSetting → String
  | logLevel => "log_level"
  | secret => "chat_api_key"
  | modelId => "model_id"
  | modelKey => "openai_api_key"
  | modelUrl => "openai_base_url"
  | embeddingModel => "embedding_model"
  | chatModel => "chat_model"
  | indexKey => "pinecone_api_key"
  | indexHost => "pinecone_index_host"
  | indexNamespace => "pinecone_namespace"
  | analyzerUrl => "presidio_analyzer_url"
  | anonymizerUrl => "presidio_anonymizer_url"
  | language => "pii_language"
  | logPath => "exchange_log_path"

/-- The text that a setting has; the secret may have none. -/
def valueIn (s : Settings) : TextSetting → Option String
  | logLevel => some s.logLevel
  | secret => s.secret
  | modelId => some s.modelId
  | modelKey => some s.modelKey
  | modelUrl => some s.modelUrl
  | embeddingModel => some s.embeddingModel
  | chatModel => some s.chatModel
  | indexKey => some s.indexKey
  | indexHost => some s.indexHost
  | indexNamespace => some s.indexNamespace
  | analyzerUrl => some s.analyzerUrl
  | anonymizerUrl => some s.anonymizerUrl
  | language => some s.language
  | logPath => some s.logPath

theorem ofText_key (k : TextSetting) : Key.ofText k.key = ⟨k.key, none⟩ := by
  cases k <;> rfl

end TextSetting

theorem readText?_of_readText {value : Value} {t : String} (read : readText value = .ok t) :
    readText? value = .ok (some t) := by
  cases value with
  | nil | list | table => cases read
  | bool | int | real | text =>
    cases read
    rfl

/-- Every text setting but the secret is asked for. -/
theorem HeldBy.readText_eq {layer : Layer} {s : Settings} (held : HeldBy layer s)
    {k : TextSetting} (asked : k ≠ .secret) : read? readText layer k.key = .ok (k.valueIn s) := by
  cases k with
  | secret => exact absurd rfl asked
  | logLevel => exact held.logLevel
  | modelId => exact held.modelId
  | modelKey => exact held.modelKey
  | modelUrl => exact held.modelUrl
  | embeddingModel => exact held.embeddingModel
  | chatModel => exact held.chatModel
  | indexKey => exact held.indexKey
  | indexHost => exact held.indexHost
  | indexNamespace => exact held.indexNamespace
  | analyzerUrl => exact held.analyzerUrl
  | anonymizerUrl => exact held.anonymizerUrl
  | language => exact held.language
  | logPath => exact held.logPath

/-- The text setting of settings that a layer holds is read from the value in the layer. -/
theorem HeldBy.readText?_eq {layer : Layer} {s : Settings} (held : HeldBy layer s)
    (k : TextSetting) {given : Given} (there : layer.lookup k.key = some given) :
    readText? given.value = .ok (k.valueIn s) := by
  by_cases asked : k = .secret
  · -- The one setting that may be missing is read as such, and not asked for.
    subst asked
    obtain ⟨secret, read, joined⟩ := held.secret
    obtain ⟨a, rfl, value⟩ := reading_of_read? there read
    rw [TextSetting.valueIn, joined]
    exact value
  · obtain ⟨t, isText, value⟩ := reading_of_read? there (held.readText_eq asked)
    rw [isText]
    exact readText?_of_readText value

/-! ## Counts -/

/-- The settings that are counts. -/
inductive CountSetting where
  | listenPort
  | topK
  | timeoutSeconds
  deriving DecidableEq, Repr

namespace CountSetting

def key : CountSetting → String
  | listenPort => "port"
  | topK => "top_k"
  | timeoutSeconds => "request_timeout_secs"

def valueIn (s : Settings) : CountSetting → Nat
  | listenPort => s.listenPort
  | topK => s.topK
  | timeoutSeconds => s.timeoutSeconds

/-- What a setting holds of a count: of the port only the last 16 bits are left. -/
def held : CountSetting → Nat → Nat
  | listenPort, n => n % 65536
  | topK, n => n
  | timeoutSeconds, n => n

theorem ofText_key (k : CountSetting) : Key.ofText k.key = ⟨k.key, none⟩ := by
  cases k <;> rfl

end CountSetting

theorem HeldBy.exists_count {layer : Layer} {s : Settings} (held : HeldBy layer s)
    (k : CountSetting) :
    ∃ count, read? readCount layer k.key = .ok (some count) ∧ k.valueIn s = k.held count := by
  cases k with
  | listenPort => exact held.listenPort
  | topK => exact ⟨s.topK, held.topK, rfl⟩
  | timeoutSeconds => exact ⟨s.timeoutSeconds, held.timeoutSeconds, rfl⟩

/-- The count setting of settings that a layer holds is read from the value in the layer. -/
theorem HeldBy.readCount_eq {layer : Layer} {s : Settings} (held : HeldBy layer s)
    (k : CountSetting) {given : Given} (there : layer.lookup k.key = some given) :
    ∃ count, readCount given.value = .ok count ∧ k.valueIn s = k.held count := by
  obtain ⟨count, read, value⟩ := held.exists_count k
  obtain ⟨a, same, isRead⟩ := reading_of_read? there read
  cases same
  exact ⟨count, isRead, value⟩

/-! ## All settings -/

inductive Setting where
  | text (k : TextSetting)
  | count (k : CountSetting)
  | temperature
  deriving DecidableEq, Repr

namespace Setting

def key : Setting → String
  | text k => k.key
  | count k => k.key
  | temperature => "temperature"

/-- Whether a setting is what it is read as from a value. -/
def Reads (s : Settings) (value : Value) : Setting → Prop
  | text k => readText? value = .ok (k.valueIn s)
  | count k => ∃ count, readCount value = .ok count ∧ k.valueIn s = k.held count
  | temperature => ∃ x : Binary64, readReal value = .ok x ∧ s.temperature = x.convert

theorem ofText_key (k : Setting) : Key.ofText k.key = ⟨k.key, none⟩ := by
  cases k with
  | text k => exact k.ofText_key
  | count k => exact k.ofText_key
  | temperature => rfl

/-- Nothing is read from a table or a list. -/
theorem not_reads_of_isParted {k : Setting} {s : Settings} {given : Given}
    (parted : IsParted given) : ¬k.Reads s given.value := by
  intro reads
  cases k with
  | text k => rcases parted with rfl | rfl <;> cases reads
  | count k =>
    obtain ⟨count, read, -⟩ := reads
    rcases parted with rfl | rfl <;> cases read
  | temperature =>
    obtain ⟨x, read, -⟩ := reads
    rcases parted with rfl | rfl <;> cases read

end Setting

/-- Each setting that a layer holds is read from the value in the layer. -/
theorem HeldBy.reads {layer : Layer} {s : Settings} (held : HeldBy layer s) (k : Setting)
    {given : Given} (there : layer.lookup k.key = some given) : k.Reads s given.value := by
  cases k with
  | text k => exact held.readText?_eq k there
  | count k => exact held.readCount_eq k there
  | temperature =>
    obtain ⟨x, read, value⟩ := held.temperature
    obtain ⟨a, same, isRead⟩ := reading_of_read? there read
    cases same
    exact ⟨x, isRead, value⟩

/-- A layer holds settings if a value can be read for each of them, and for the secret if there is
one. -/
theorem exists_heldBy {layer : Layer}
    (texts : ∀ k : TextSetting, ∃ t, k ≠ .secret → read? readText layer k.key = .ok (some t))
    (secret : ∃ t, read? readText? layer TextSetting.secret.key = .ok t)
    (counts : ∀ k : CountSetting, ∃ n, read? readCount layer k.key = .ok (some n))
    (temperature : ∃ x, read? readReal layer "temperature" = .ok (some x)) :
    ∃ s, HeldBy layer s := by
  choose text isText using texts
  choose count isCount using counts
  obtain ⟨secret, isSecret⟩ := secret
  obtain ⟨x, isTemperature⟩ := temperature
  let s : Settings := {
    listenPort := count .listenPort % 65536
    logLevel := text .logLevel
    secret := secret.join
    modelId := text .modelId
    modelKey := text .modelKey
    modelUrl := text .modelUrl
    embeddingModel := text .embeddingModel
    chatModel := text .chatModel
    temperature := x.convert
    indexKey := text .indexKey
    indexHost := text .indexHost
    indexNamespace := text .indexNamespace
    topK := count .topK
    analyzerUrl := text .analyzerUrl
    anonymizerUrl := text .anonymizerUrl
    language := text .language
    logPath := text .logPath
    timeoutSeconds := count .timeoutSeconds }
  exact ⟨s, {
    listenPort := ⟨count .listenPort, isCount .listenPort, rfl⟩
    logLevel := isText .logLevel (by decide)
    secret := ⟨secret, isSecret, rfl⟩
    modelId := isText .modelId (by decide)
    modelKey := isText .modelKey (by decide)
    modelUrl := isText .modelUrl (by decide)
    embeddingModel := isText .embeddingModel (by decide)
    chatModel := isText .chatModel (by decide)
    temperature := ⟨x, isTemperature, rfl⟩
    indexKey := isText .indexKey (by decide)
    indexHost := isText .indexHost (by decide)
    indexNamespace := isText .indexNamespace (by decide)
    topK := isCount .topK
    analyzerUrl := isText .analyzerUrl (by decide)
    anonymizerUrl := isText .anonymizerUrl (by decide)
    language := isText .language (by decide)
    logPath := isText .logPath (by decide)
    timeoutSeconds := isCount .timeoutSeconds }⟩

/-! ## Loading -/

/-- A setting of settings that were loaded is read from the scalar that was given to it last. -/
theorem Setting.reads_of_lastGiven? {k : Setting} {assignments : List Assignment} {given : Given}
    {s : Settings} (scalar : ∀ isEmpty, given.value ≠ .table isEmpty)
    (last : lastGiven? k.key assignments = some given) (loaded : load assignments = .ok s) :
    k.Reads s given.value := by
  have held := heldBy_of_ofLayer loaded
  obtain ⟨parted, there, isParted⟩ | there :=
    Layer.lookup_assignAll_of_lastGiven? defaults k.ofText_key scalar last
  · exact absurd (held.reads k there) (not_reads_of_isParted isParted)
  · exact held.reads k there

end CitedAnswers.Settings
