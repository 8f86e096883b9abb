import CitedAnswers.Settings.Loading

/-! # Settings that a layer holds

Settings are read from a layer one after the other, and each may be refused or missing, so settings
that come out of a layer say something about every value in it.  `Settings.HeldBy` collects this,
one field for each setting, and `heldBy_of_ofLayer` takes the reading apart once for all that
follows.
-/

namespace CitedAnswers.Settings

open CitedAnswers.Number (Binary64)

/-! ## Steps of a reading -/

/-- A computation that goes on after another one succeeds only if both do. -/
theorem ok_of_bind {ε α β : Type} {first : Except ε α} {next : α → Except ε β} {b : β}
    (h : (first >>= next) = .ok b) : ∃ a, first = .ok a ∧ next a = .ok b := by
  cases first with
  | error e => cases h
  | ok a => exact ⟨a, rfl, h⟩

theorem eq_some_of_require {α : Type} {key : String} {held : Option α} {a : α}
    (h : require key held = .ok a) : held = some a := by
  cases held with
  | none => cases h
  | some b =>
    cases h
    rfl

theorem reading_of_read? {α : Type} {reading : Reading α} {layer : Layer} {key : String}
    {given : Given} {held : Option α} (there : layer.lookup key = some given)
    (read : read? reading layer key = .ok held) :
    ∃ a, held = some a ∧ reading given.value = .ok a := by
  unfold read? at read
  rw [there] at read
  dsimp only at read
  split at read
  · next a value =>
    cases read
    exact ⟨a, rfl, value⟩
  · cases read

theorem read?_of_some {α : Type} {reading : Reading α} {layer : Layer} {key : String}
    {given : Given} {a : α} (there : layer.lookup key = some given)
    (value : reading given.value = .ok a) : read? reading layer key = .ok (some a) := by
  rw [read?, there]
  dsimp only
  rw [value]

/-! ## All settings -/

/-- Settings that a layer holds: each is what its reading makes of the value in the layer. -/
structure HeldBy (layer : Layer) (s : Settings) : Prop where
  listenPort : ∃ n, read? readCount layer "port" = .ok (some n) ∧ s.listenPort = n % 65536
  logLevel : read? readText layer "log_level" = .ok (some s.logLevel)
  secret : ∃ held, read? readText? layer "chat_api_key" = .ok held ∧ s.secret = held.join
  modelId : read? readText layer "model_id" = .ok (some s.modelId)
  modelKey : read? readText layer "openai_api_key" = .ok (some s.modelKey)
  modelUrl : read? readText layer "openai_base_url" = .ok (some s.modelUrl)
  embeddingModel : read? readText layer "embedding_model" = .ok (some s.embeddingModel)
  chatModel : read? readText layer "chat_model" = .ok (some s.chatModel)
  temperature : ∃ x : Binary64, read? readReal layer "temperature" = .ok (some x) ∧
    s.temperature = x.convert
  indexKey : read? readText layer "pinecone_api_key" = .ok (some s.indexKey)
  indexHost : read? readText layer "pinecone_index_host" = .ok (some s.indexHost)
  indexNamespace : read? readText layer "pinecone_namespace" = .ok (some s.indexNamespace)
  topK : read? readCount layer "top_k" = .ok (some s.topK)
  analyzerUrl : read? readText layer "presidio_analyzer_url" = .ok (some s.analyzerUrl)
  anonymizerUrl : read? readText layer "presidio_anonymizer_url" = .ok (some s.anonymizerUrl)
  language : read? readText layer "pii_language" = .ok (some s.language)
  logPath : read? readText layer "exchange_log_path" = .ok (some s.logPath)
  timeoutSeconds : read? readCount layer "request_timeout_secs" = .ok (some s.timeoutSeconds)

theorem heldBy_of_ofLayer {layer : Layer} {s : Settings} (h : ofLayer layer = .ok s) :
    HeldBy layer s := by
  unfold ofLayer at h
  -- First every value that is there is read ...
  obtain ⟨listenPort, readListenPort, h⟩ := ok_of_bind h
  obtain ⟨logLevel, readLogLevel, h⟩ := ok_of_bind h
  obtain ⟨secret, readSecret, h⟩ := ok_of_bind h
  obtain ⟨modelId, readModelId, h⟩ := ok_of_bind h
  obtain ⟨modelKey, readModelKey, h⟩ := ok_of_bind h
  obtain ⟨modelUrl, readModelUrl, h⟩ := ok_of_bind h
  obtain ⟨embeddingModel, readEmbeddingModel, h⟩ := ok_of_bind h
  obtain ⟨chatModel, readChatModel, h⟩ := ok_of_bind h
  obtain ⟨temperature, readTemperature, h⟩ := ok_of_bind h
  obtain ⟨indexKey, readIndexKey, h⟩ := ok_of_bind h
  obtain ⟨indexHost, readIndexHost, h⟩ := ok_of_bind h
  obtain ⟨indexNamespace, readIndexNamespace, h⟩ := ok_of_bind h
  obtain ⟨topK, readTopK, h⟩ := ok_of_bind h
  obtain ⟨analyzerUrl, readAnalyzerUrl, h⟩ := ok_of_bind h
  obtain ⟨anonymizerUrl, readAnonymizerUrl, h⟩ := ok_of_bind h
  obtain ⟨language, readLanguage, h⟩ := ok_of_bind h
  obtain ⟨logPath, readLogPath, h⟩ := ok_of_bind h
  obtain ⟨timeoutSeconds, readTimeoutSeconds, h⟩ := ok_of_bind h
  -- ... and then every value but that of the secret is asked for.
  obtain ⟨_, askListenPort, h⟩ := ok_of_bind h
  obtain ⟨_, askLogLevel, h⟩ := ok_of_bind h
  obtain ⟨_, askModelId, h⟩ := ok_of_bind h
  obtain ⟨_, askModelKey, h⟩ := ok_of_bind h
  obtain ⟨_, askModelUrl, h⟩ := ok_of_bind h
  obtain ⟨_, askEmbeddingModel, h⟩ := ok_of_bind h
  obtain ⟨_, askChatModel, h⟩ := ok_of_bind h
  obtain ⟨_, askTemperature, h⟩ := ok_of_bind h
  obtain ⟨_, askIndexKey, h⟩ := ok_of_bind h
  obtain ⟨_, askIndexHost, h⟩ := ok_of_bind h
  obtain ⟨_, askIndexNamespace, h⟩ := ok_of_bind h
  obtain ⟨_, askTopK, h⟩ := ok_of_bind h
  obtain ⟨_, askAnalyzerUrl, h⟩ := ok_of_bind h
  obtain ⟨_, askAnonymizerUrl, h⟩ := ok_of_bind h
  obtain ⟨_, askLanguage, h⟩ := ok_of_bind h
  obtain ⟨_, askLogPath, h⟩ := ok_of_bind h
  obtain ⟨_, askTimeoutSeconds, h⟩ := ok_of_bind h
  cases h
  exact {
    listenPort := ⟨_, eq_some_of_require askListenPort ▸ readListenPort, rfl⟩
    logLevel := eq_some_of_require askLogLevel ▸ readLogLevel
    secret := ⟨secret, readSecret, rfl⟩
    modelId := eq_some_of_require askModelId ▸ readModelId
    modelKey := eq_some_of_require askModelKey ▸ readModelKey
    modelUrl := eq_some_of_require askModelUrl ▸ readModelUrl
    embeddingModel := eq_some_of_require askEmbeddingModel ▸ readEmbeddingModel
    chatModel := eq_some_of_require askChatModel ▸ readChatModel
    temperature := ⟨_, eq_some_of_require askTemperature ▸ readTemperature, rfl⟩
    indexKey := eq_some_of_require askIndexKey ▸ readIndexKey
    indexHost := eq_some_of_require askIndexHost ▸ readIndexHost
    indexNamespace := eq_some_of_require askIndexNamespace ▸ readIndexNamespace
    topK := eq_some_of_require askTopK ▸ readTopK
    analyzerUrl := eq_some_of_require askAnalyzerUrl ▸ readAnalyzerUrl
    anonymizerUrl := eq_some_of_require askAnonymizerUrl ▸ readAnonymizerUrl
    language := eq_some_of_require askLanguage ▸ readLanguage
    logPath := eq_some_of_require askLogPath ▸ readLogPath
    timeoutSeconds := eq_some_of_require askTimeoutSeconds ▸ readTimeoutSeconds }

/-- Settings that a layer holds come out of it. -/
theorem ofLayer_of_heldBy {layer : Layer} {s : Settings} (held : HeldBy layer s) :
    ofLayer layer = .ok s := by
  obtain ⟨port, readPort, isPort⟩ := held.listenPort
  obtain ⟨secret, readSecret, isSecret⟩ := held.secret
  obtain ⟨temperature, readTemperature, isTemperature⟩ := held.temperature
  unfold ofLayer
  rw [readPort, held.logLevel, readSecret, held.modelId, held.modelKey, held.modelUrl,
    held.embeddingModel, held.chatModel, readTemperature, held.indexKey, held.indexHost,
    held.indexNamespace, held.topK, held.analyzerUrl, held.anonymizerUrl, held.language,
    held.logPath, held.timeoutSeconds]
  cases s
  cases isPort
  cases isSecret
  cases isTemperature
  rfl

end CitedAnswers.Settings
