import CitedAnswers.Answering.Session
import CitedAnswers.Environment.File
import CitedAnswers.Http.Site
import CitedAnswers.Json.Reader
import CitedAnswers.Remote.Services
import CitedAnswers.Settings.Layer

/-! # Settings of the program

The settings of the program are read from a layer that lies over the defaults.  A layer comes from a
JSON document (`loadJson`) or from the variables of the environment (`loadVariables`).

Values of a wrong kind are reported before settings that are missing.  Of several that are missing,
the first one in the order of `Settings` is reported.  Of several values of a wrong kind it is the
first one as well, but this is a choice made here: a layer has no order of its own.

Loaded settings set up the site that is served (`Settings.site`).
-/

namespace CitedAnswers

open CitedAnswers.Number (Binary Binary32)

structure Settings where
  listenPort : Nat
  logLevel : String
  secret : Option String
  modelId : String
  modelKey : String
  modelUrl : String
  embeddingModel : String
  chatModel : String
  temperature : Binary32
  indexKey : String
  indexHost : String
  indexNamespace : String
  topK : Nat
  analyzerUrl : String
  anonymizerUrl : String
  language : String
  logPath : String
  timeoutSeconds : Nat
  deriving DecidableEq, Repr

namespace Settings

open CitedAnswers.Environment (Variables)

/-! ## Errors -/

inductive LoadError where
  | malformed (error : Json.Error)
  | wrongKind (key : String) (given : Given) (wanted : Wanted)
  | missing (key : String)
  deriving DecidableEq, Repr

def LoadError.message : LoadError → String
  | malformed error => error.message
  | wrongKind key given wanted =>
    "invalid type: " ++ given.value.message ++ ", expected " ++ wanted.message ++
      " for key \x60" ++ key ++ "\x60" ++
      (if given.fromEnvironment then " in the environment" else "")
  | missing key => "missing field \x60" ++ key ++ "\x60"

/-! ## Defaults -/

/-- The settings that have a default, with their defaults. -/
def defaults : Layer :=
  let values : List (String × Value) := [
    ("port", .int 8080),
    ("log_level", .text "info"),
    ("model_id", .text "YQ Answers"),
    ("openai_base_url", .text "https://api.openai.com/v1"),
    ("embedding_model", .text "text-embedding-3-large"),
    ("chat_model", .text "gpt-4o-mini"),
    ("temperature", .real (Binary.ofQuotient false 3 10)),
    ("pinecone_namespace", .text "ns1"),
    ("top_k", .int 3),
    ("presidio_analyzer_url", .text "http://localhost:5002"),
    ("presidio_anonymizer_url", .text "http://localhost:5001"),
    ("pii_language", .text "en"),
    ("exchange_log_path", .text "chat_history.csv"),
    ("request_timeout_secs", .int 60)]
  values.map fun (name, value) => (name, ⟨value, false⟩)

/-! ## Reading a layer -/

def read? {α : Type} (reading : Reading α) (layer : Layer) (key : String) :
    Except LoadError (Option α) :=
  match layer.lookup key with
  | none => .ok none
  | some given =>
    match reading given.value with
    | .ok a => .ok (some a)
    | .error wanted => .error (.wrongKind key given wanted)

/-- The value of a setting that must not be missing. -/
def require {α : Type} (key : String) : Option α → Except LoadError α
  | some a => .ok a
  | none => .error (.missing key)

def ofLayer (layer : Layer) : Except LoadError Settings := do
  let listenPort ← read? readCount layer "port"
  let logLevel ← read? readText layer "log_level"
  let secret ← read? readText? layer "chat_api_key"
  let modelId ← read? readText layer "model_id"
  let modelKey ← read? readText layer "openai_api_key"
  let modelUrl ← read? readText layer "openai_base_url"
  let embeddingModel ← read? readText layer "embedding_model"
  let chatModel ← read? readText layer "chat_model"
  let temperature ← read? readReal layer "temperature"
  let indexKey ← read? readText layer "pinecone_api_key"
  let indexHost ← read? readText layer "pinecone_index_host"
  let indexNamespace ← read? readText layer "pinecone_namespace"
  let topK ← read? readCount layer "top_k"
  let analyzerUrl ← read? readText layer "presidio_analyzer_url"
  let anonymizerUrl ← read? readText layer "presidio_anonymizer_url"
  let language ← read? readText layer "pii_language"
  let logPath ← read? readText layer "exchange_log_path"
  let timeoutSeconds ← read? readCount layer "request_timeout_secs"
  return {
    listenPort := (← require "port" listenPort) % 65536
    logLevel := ← require "log_level" logLevel
    secret := secret.join
    modelId := ← require "model_id" modelId
    modelKey := ← require "openai_api_key" modelKey
    modelUrl := ← require "openai_base_url" modelUrl
    embeddingModel := ← require "embedding_model" embeddingModel
    chatModel := ← require "chat_model" chatModel
    temperature := (← require "temperature" temperature).convert
    indexKey := ← require "pinecone_api_key" indexKey
    indexHost := ← require "pinecone_index_host" indexHost
    indexNamespace := ← require "pinecone_namespace" indexNamespace
    topK := ← require "top_k" topK
    analyzerUrl := ← require "presidio_analyzer_url" analyzerUrl
    anonymizerUrl := ← require "presidio_anonymizer_url" anonymizerUrl
    language := ← require "pii_language" language
    logPath := ← require "exchange_log_path" logPath
    timeoutSeconds := ← require "request_timeout_secs" timeoutSeconds }

/-- Reads settings that are assigned over the defaults. -/
def load (assignments : List Assignment) : Except LoadError Settings :=
  ofLayer (defaults.assignAll assignments)

/-! ## Documents -/

/-- The assignments of a document: those of its members, if it is an object. -/
def documentAssignments : Json → List Assignment
  | .object members => members.map fun (name, value) => ⟨name, ⟨.ofJson value, false⟩⟩
  | _ => []

/-- Loads settings from the text of a JSON document. -/
def loadJson (text : String) : Except LoadError Settings :=
  match Json.parse text with
  | .error e => .error (.malformed e)
  | .ok document => load (documentAssignments document)

/-! ## Environments -/

/-- What the names of the program's variables begin with, in lower case. -/
def variablePrefix : List Char := "yq_".toList

/-- The assignment of a variable, if it is one of the program's. -/
def variableAssignment? (name value : String) : Option Assignment :=
  (Text.behind? variablePrefix (Text.lower name.toList)).map fun key =>
    ⟨String.ofList key, ⟨.ofText value, true⟩⟩

def variableAssignments (vars : Variables) : List Assignment :=
  vars.filterMap fun (name, value) => variableAssignment? name value

def loadVariables (vars : Variables) : Except LoadError Settings :=
  load (variableAssignments vars)

/-- Loads settings from the variables of the environment and, after them, of a file. -/
def loadEnvironment (vars : Variables) (file : Option String) : Except LoadError Settings :=
  loadVariables (file.elim vars vars.extend)

/-! ## Use -/

/-- The secret that is asked for.  An empty one is none. -/
def effectiveSecret (s : Settings) : Option String :=
  s.secret.filter (· ≠ "")

/-- The path of the log, without blanks around it.  An empty one is none. -/
def effectiveLogPath (s : Settings) : Option String :=
  let path := String.ofList (Text.trim s.logPath.toList)
  if path = "" then none else some path

def manner (s : Settings) : Answering.Manner :=
  ⟨s.language, s.topK, s.temperature⟩

def accounts (s : Settings) : Remote.Accounts where
  modelUrl := s.modelUrl
  modelKey := s.modelKey
  embeddingModel := s.embeddingModel
  chatModel := s.chatModel
  indexHost := s.indexHost
  indexKey := s.indexKey
  indexNamespace := s.indexNamespace
  analyzerUrl := s.analyzerUrl
  anonymizerUrl := s.anonymizerUrl

/-- A log is kept if it has a path. -/
def log (s : Settings) : Exchanges.Log :=
  if s.effectiveLogPath.isSome then .enabled else .disabled

variable {σ : Type}

/-- How turns are answered with these settings, where the services are reached over a transport. -/
def setup (s : Settings) (charsets : Text.Charsets) (transport : Remote.Transport σ) :
    Answering.Setup σ :=
  ⟨Remote.services charsets s.accounts transport, s.manner, s.log⟩

/-- The site that these settings set up over a transport. -/
def site (s : Settings) (charsets : Text.Charsets) (transport : Remote.Transport σ) :
    Http.Site σ where
  setup := s.setup charsets transport
  secret := s.effectiveSecret
  modelId := s.modelId

end Settings

end CitedAnswers
