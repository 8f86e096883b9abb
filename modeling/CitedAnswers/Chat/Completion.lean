import CitedAnswers.Chat.Message

/-! # Chat completions

What a client asks for and what it gets.  A request names a model and holds a conversation; its
temperature has a default, and is otherwise of no account.  The answer is wrapped into an envelope
with one choice (`envelope`).  The service offers one model, under a name of its own choosing
(`modelList`).
-/

namespace CitedAnswers.Chat

open CitedAnswers.Json (Decoder Record Field)
open CitedAnswers.Number (Binary32 Binary)

/-! ## Requests -/

/-- The temperature where none is given, three tenths. -/
def defaultTemperature : Binary32 := Binary.ofQuotient false 3 10

structure Request where
  model : String
  messages : List Message
  temperature : Binary32
  deriving DecidableEq, Repr

namespace Request

structure Gathered where
  model : Option String := none
  messages : Option (List Message) := none
  temperature : Option Binary32 := none

def record : Record Gathered Request where
  name := "ChatCompletionRequest"
  fields := [
    { name := "model"
      isSet := (·.model.isSome)
      read := fun depth g text =>
        Json.mapResult (fun s => { g with model := some s }) (Decoder.string depth text) },
    { name := "messages"
      isSet := (·.messages.isSome)
      read := fun depth g text =>
        Json.mapResult (fun ms => { g with messages := some ms })
          (Decoder.list Message.decoder depth text) },
    { name := "temperature"
      isSet := (·.temperature.isSome)
      read := fun depth g text =>
        Json.mapResult (fun t => { g with temperature := some t }) (Decoder.single depth text)
      mayEnd := true }]
  start := {}
  finish
    | ⟨none, _, _⟩ => .error "model"
    | ⟨some _, none, _⟩ => .error "messages"
    | ⟨some model, some messages, temperature⟩ =>
      .ok ⟨model, messages, temperature.getD defaultTemperature⟩

def decoder : Decoder Request := record.decoder

end Request

/-! ## Answers -/

def envelope (model answer : String) : Json :=
  .object [
    ("id", .string "chatcmpl-local-001"),
    ("object", .string "chat.completion"),
    ("created", .number (.whole 0)),
    ("model", .string model),
    ("choices", .array [.object [
      ("index", .number (.whole 0)),
      ("message", (Message.assistant answer).toJson),
      ("finish_reason", .string "stop")]]),
    ("usage", .object [
      ("prompt_tokens", .number (.whole 0)),
      ("completion_tokens", .number (.whole 0)),
      ("total_tokens", .number (.whole 0))])]

def modelList (id : String) : Json :=
  .object [
    ("object", .string "list"),
    ("data", .array [.object [
      ("id", .string id),
      ("object", .string "model"),
      ("created", .number (.whole 1715200000)),
      ("owned_by", .string "local"),
      ("permission", .array [])]])]

end CitedAnswers.Chat
