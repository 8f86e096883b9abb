import CitedAnswers.Remote.Delivery
import CitedAnswers.Remote.Documents
import CitedAnswers.Text.Prefix

/-! # Services at a distance

The five services as they are reached over a transport (`services`): each call is one posting, and
its reply is classified by the service it was made to.
-/

namespace CitedAnswers.Remote

open CitedAnswers.Answering (Call Services)
open CitedAnswers.Text (Charsets)

/-- Where the services are reached, and what authorises the program there. -/
structure Accounts where
  modelUrl : String
  modelKey : String
  embeddingModel : String
  chatModel : String
  indexHost : String
  indexKey : String
  indexNamespace : String
  analyzerUrl : String
  anonymizerUrl : String
  deriving DecidableEq, Repr

/-- The address of a host: a bare name stands for a secure one. -/
def hostUrl (host : String) : String :=
  let names := fun scheme : String => (Text.behind? scheme.toList host.toList).isSome
  if names "http://" || names "https://" then host else "https://" ++ host

namespace Accounts

/-- What authorises the program to the service of the models. -/
def modelAuthority (a : Accounts) : Http.Headers :=
  [("authorization", "Bearer " ++ a.modelKey)]

def indexAuthority (a : Accounts) : Http.Headers :=
  [("api-key", a.indexKey), ("x-pinecone-api-version", "2024-07")]

def posting? (a : Accounts) : Call → Option Posting
  | .analyze text language =>
    Posting.make? (endpoint a.analyzerUrl "/analyze") [] (analysisDocument text language)
  | .anonymize text entities =>
    Posting.make? (endpoint a.anonymizerUrl "/anonymize") [] (anonymizationDocument text entities)
  | .embed text =>
    Posting.make? (endpoint a.modelUrl "/embeddings") a.modelAuthority
      (embeddingDocument a.embeddingModel text)
  | .query vector topK =>
    Posting.make? (endpoint (hostUrl a.indexHost) "/query") a.indexAuthority
      (queryDocument a.indexNamespace vector topK)
  | .complete conversation temperature =>
    Posting.make? (endpoint a.modelUrl "/chat/completions") a.modelAuthority
      (completionDocument a.chatModel conversation temperature)

end Accounts

/-- What a reply to a call is worth. -/
def classify (charsets : Charsets) : (call : Call) → Reply → call.Reply
  | .analyze .., r => r.classify charsets "presidio-analyzer" entitiesDecoder .ok
  | .anonymize .., r => r.classify charsets "presidio-anonymizer" anonymizedDecoder .ok
  | .embed _, r => r.classify charsets "openai" vectorsDecoder firstVector
  | .query .., r => r.classify charsets "pinecone" matchesDecoder passages
  | .complete .., r => r.classify charsets "openai" choicesDecoder firstChoice

/-- The services as they are reached over a transport, where refusals are read by these character
sets. -/
def services {σ : Type} (charsets : Charsets) (a : Accounts) (transport : Transport σ) :
    Services σ :=
  fun call memory => exchange transport (a.posting? call) (classify charsets call) memory

end CitedAnswers.Remote
