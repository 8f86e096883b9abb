import CitedAnswers.Settings.Loading

/-! # Calls as requests

What the settings make of a call, written out for the five calls: the address, the fields and the
document that are sent for it (`Carries`), and the value that a reply to it holds (`decoded?`).  The
services at a distance send just this (`posting?_of_canSend`) and take just this from replies
(`outcomeOf_some`); a call whose key does not fit into a field is not sent at all.
-/

namespace CitedAnswers.Remote

open CitedAnswers.Answering (Call ServiceError)
open CitedAnswers.Chat (Message)
open CitedAnswers.Sources (Passage)
open CitedAnswers.Text (Charsets Symbol)

/-! ## What is sent -/

/-- Whether a key can stand in a field: it has no control character but tabs. -/
def IsSendable (key : String) : Prop :=
  ∀ c ∈ key.toList, c = '\t' ∨ 0x20 ≤ c.toNat ∧ c.toNat ≠ 0x7F

/-- Whether a request can be made of a call: the key that goes with it can be sent. -/
def CanSend (s : Settings) : Call → Prop
  | .analyze .. | .anonymize .. => True
  | .embed _ | .complete .. => IsSendable s.modelKey
  | .query .. => IsSendable s.indexKey

def jsonField : String × String := ("content-type", "application/json")

/-- The request that carries a call. -/
inductive Carries (s : Settings) : Call → Posting → Prop where
  | analyze (text language : String) :
    Carries s (.analyze text language) ⟨endpoint s.analyzerUrl "/analyze", [jsonField],
      (Json.object [("text", .string text), ("language", .string language)]).render⟩
  | anonymize (text : String) (entities : List Json) :
    Carries s (.anonymize text entities) ⟨endpoint s.anonymizerUrl "/anonymize", [jsonField],
      (Json.object [("text", .string text), ("analyzer_results", .array entities)]).render⟩
  | embed (text : String) :
    Carries s (.embed text) ⟨endpoint s.modelUrl "/embeddings",
      [("authorization", "Bearer " ++ s.modelKey), jsonField],
      (Json.object [("model", .string s.embeddingModel),
        ("input", .array [.string text])]).render⟩
  | query (vector : List Number.Binary32) (topK : Nat) :
    Carries s (.query vector topK) ⟨endpoint (hostUrl s.indexHost) "/query",
      [("api-key", s.indexKey), ("x-pinecone-api-version", "2024-07"), jsonField],
      (Json.object [("namespace", .string s.indexNamespace),
        ("vector", .array (vector.map fun x => .number (.single x))),
        ("topK", .number (.whole topK)),
        ("includeValues", .bool false),
        ("includeMetadata", .bool true)]).render⟩
  | complete (conversation : List Message) (temperature : Number.Binary32) :
    Carries s (.complete conversation temperature) ⟨endpoint s.modelUrl "/chat/completions",
      [("authorization", "Bearer " ++ s.modelKey), jsonField],
      (Json.object [("model", .string s.chatModel),
        ("messages", .array (conversation.map Message.toJson)),
        ("temperature", .number (.single temperature))]).render⟩

theorem isSendable_iff (key : String) : isSendable key = true ↔ IsSendable key := by
  unfold isSendable IsSendable
  rw [List.all_eq_true]
  simp

theorem isSendable_bearer_iff (key : String) :
    isSendable ("Bearer " ++ key) = true ↔ IsSendable key := by
  have ofWord : ("Bearer ".toList.all fun c =>
      decide (c = '\t' ∨ 0x20 ≤ c.toNat ∧ c.toNat ≠ 0x7F)) = true := by decide
  rw [← isSendable_iff]
  unfold isSendable
  rw [String.toList_append, List.all_append]
  simp_all

theorem isSendable_modelAuthority_iff (a : Accounts) :
    (a.modelAuthority.all fun (_, value) => isSendable value) = true ↔ IsSendable a.modelKey := by
  rw [← isSendable_bearer_iff]
  simp [Accounts.modelAuthority]

theorem isSendable_indexAuthority_iff (a : Accounts) :
    (a.indexAuthority.all fun (_, value) => isSendable value) = true ↔ IsSendable a.indexKey := by
  have version : isSendable "2024-07" = true := by decide
  rw [← isSendable_iff]
  simp [Accounts.indexAuthority, version]

theorem posting?_of_canSend {s : Settings} {call : Call} (canSend : CanSend s call) :
    ∃ posting, s.accounts.posting? call = some posting ∧ Carries s call posting := by
  cases call with
  | analyze text language => exact ⟨_, rfl, .analyze text language⟩
  | anonymize text entities => exact ⟨_, rfl, .anonymize text entities⟩
  | embed text =>
    exact ⟨_, if_pos ((isSendable_modelAuthority_iff s.accounts).mpr canSend), .embed text⟩
  | query vector topK =>
    exact ⟨_, if_pos ((isSendable_indexAuthority_iff s.accounts).mpr canSend),
      .query vector topK⟩
  | complete conversation temperature =>
    exact ⟨_, if_pos ((isSendable_modelAuthority_iff s.accounts).mpr canSend),
      .complete conversation temperature⟩

theorem posting?_of_not_canSend {s : Settings} {call : Call} (canNotSend : ¬CanSend s call) :
    s.accounts.posting? call = none := by
  cases call with
  | analyze | anonymize => exact absurd trivial canNotSend
  | embed | complete =>
    exact if_neg (mt (isSendable_modelAuthority_iff s.accounts).mp canNotSend)
  | query => exact if_neg (mt (isSendable_indexAuthority_iff s.accounts).mp canNotSend)

theorem body_of_make? {url : String} {authority : Http.Headers} {document : Json}
    {posting : Posting} (made : Posting.make? url authority document = some posting) :
    posting.body = document.render := by
  obtain ⟨-, same⟩ := Option.ite_none_right_eq_some.mp made
  cases same
  rfl

/-! ## What is taken from replies -/

/-- The value that a body holds for a call, if the body has the shape that the call asks for. -/
def decoded? : (call : Call) → List Symbol → Option call.Value
  | .analyze .., body => (entitiesDecoder.run body).toOption
  | .anonymize .., body => (anonymizedDecoder.run body).toOption
  | .embed _, body => (vectorsDecoder.run body).toOption.bind List.head?
  | .query .., body => (matchesDecoder.run body).toOption.map (·.map Passage.ofMetadata)
  | .complete .., body => (choicesDecoder.run body).toOption.bind fun choices => choices.head?.join

/-- The name of the service that a call is made to. -/
def serviceName : Call → String
  | .analyze .. => "presidio-analyzer"
  | .anonymize .. => "presidio-anonymizer"
  | .embed _ | .complete .. => "openai"
  | .query .. => "pinecone"

/-- What is wrong with a body that does not have the shape that a call asks for. -/
def misfit (charsets : Charsets) (call : Call) (r : Reply) : String :=
  match classify charsets call r with
  | .error (.unusable _ reason) => reason
  | _ => ""

/-- What a reply is worth that holds this value, if any: the value if the reply was served, and an
error otherwise. -/
def Reply.worth {α : Type} (charsets : Charsets) (service : String) (value? : Option α)
    (reason : String) (r : Reply) : Except ServiceError α :=
  if 200 ≤ r.status ∧ r.status ≤ 299 then
    match value? with
    | some value => .ok value
    | none => .error (.unusable service reason)
  else .error (.status service r.status (r.text charsets))

/-- What comes of a call whose request is replied to or lost. -/
def outcomeOf (charsets : Charsets) (call : Call) : Option Reply → call.Reply
  | some r =>
    r.worth charsets (serviceName call) (decoded? call (Text.decode r.body))
      (misfit charsets call r)
  | none => .error lostOnTheWay

variable (charsets : Charsets)

theorem Reply.classify_eq_worth {α β : Type} (service : String) (decoder : Json.Decoder α)
    (want : α → Except String β) (r : Reply) :
    ∃ reason, r.classify charsets service decoder want = r.worth charsets service
      ((decoder.run (Text.decode r.body)).toOption.bind fun a => (want a).toOption) reason := by
  unfold Reply.classify Reply.worth
  by_cases served : 200 ≤ r.status ∧ r.status ≤ 299
  · have isSuccess : r.isSuccess = true := by simpa [Reply.isSuccess] using served
    rw [if_pos isSuccess]
    cases decoder.run (Text.decode r.body) with
    | error e => exact ⟨e.message, (if_pos served).symm⟩
    | ok a =>
      have value? (e : Type) : ((Except.ok a : Except e α).toOption.bind fun a =>
          (want a).toOption) = (want a).toOption := rfl
      cases wanted : want a with
      | error reason =>
        refine ⟨reason, ?_⟩
        rw [if_pos served, value?]
        dsimp only
        rw [wanted]
        rfl
      | ok value =>
        refine ⟨"", ?_⟩
        rw [if_pos served, value?]
        dsimp only
        rw [wanted]
        rfl
  · have notSuccess : ¬r.isSuccess = true := by simpa [Reply.isSuccess] using served
    exact ⟨"", by rw [if_neg notSuccess, if_neg served]⟩

theorem outcomeOf_of_worth {call : Call} {r : Reply} {reason : String}
    (classified : classify charsets call r =
      r.worth charsets (serviceName call) (decoded? call (Text.decode r.body)) reason) :
    outcomeOf charsets call (some r) = classify charsets call r := by
  rw [outcomeOf, misfit, classified]
  unfold Reply.worth
  by_cases served : 200 ≤ r.status ∧ r.status ≤ 299
  · rw [if_pos served, if_pos served]
    cases decoded? call (Text.decode r.body) <;> rfl
  · rw [if_neg served, if_neg served]

/-- The services at a distance take from a reply what it is worth. -/
theorem outcomeOf_some (call : Call) (r : Reply) :
    outcomeOf charsets call (some r) = classify charsets call r := by
  -- What is wanted of a document is its value, as far as it has the shape.
  have want_ok {α : Type} (value? : Option α) :
      (value?.bind fun a => (Except.ok a : Except String α).toOption) = value? :=
    Option.bind_fun_some value?
  cases call with
  | analyze text language =>
    obtain ⟨reason, classified⟩ :=
      r.classify_eq_worth charsets "presidio-analyzer" entitiesDecoder .ok
    rw [want_ok] at classified
    exact outcomeOf_of_worth charsets classified
  | anonymize text entities =>
    obtain ⟨reason, classified⟩ :=
      r.classify_eq_worth charsets "presidio-anonymizer" anonymizedDecoder .ok
    rw [want_ok] at classified
    exact outcomeOf_of_worth charsets classified
  | embed text =>
    obtain ⟨reason, classified⟩ :=
      r.classify_eq_worth charsets "openai" vectorsDecoder firstVector
    have first : (fun vectors => (firstVector vectors).toOption) = List.head? := by
      funext vectors
      cases vectors <;> rfl
    rw [first] at classified
    exact outcomeOf_of_worth charsets classified
  | query vector topK =>
    obtain ⟨reason, classified⟩ :=
      r.classify_eq_worth charsets "pinecone" matchesDecoder passages
    have all : (fun metadata => (passages metadata).toOption) =
        some ∘ List.map Passage.ofMetadata := rfl
    rw [all, ← Option.map_eq_bind] at classified
    exact outcomeOf_of_worth charsets classified
  | complete conversation temperature =>
    obtain ⟨reason, classified⟩ :=
      r.classify_eq_worth charsets "openai" choicesDecoder firstChoice
    have first : (fun choices => (firstChoice choices).toOption) =
        fun choices => choices.head?.join := by
      funext choices
      cases choices with
      | nil => rfl
      | cons choice rest => cases choice <;> rfl
    rw [first] at classified
    exact outcomeOf_of_worth charsets classified

/-! ## Accounts and replies for examples -/

def someAccounts : Accounts where
  modelUrl := "http://models"
  modelKey := "sk-test"
  embeddingModel := "embedding"
  chatModel := "chat"
  indexHost := "http://index"
  indexKey := "pc-test"
  indexNamespace := ""
  analyzerUrl := "http://analyzer"
  anonymizerUrl := "http://anonymizer"

/-- A reply that was served, with a body of ASCII characters. -/
def replyOf (body : String) : Reply :=
  ⟨200, none, body.toList.map fun c => UInt8.ofNat c.toNat⟩

/-- The transport that brings back one reply to every document. -/
def always (r : Reply) : Transport Unit :=
  fun _ memory => (some r, memory)

end CitedAnswers.Remote
