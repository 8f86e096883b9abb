import CitedAnswers.Chat.Message
import CitedAnswers.Json.Decoder
import CitedAnswers.Sources.Passage

/-! # Documents of the services

What is posted to each service, and the shapes of what it replies.  The members of a document stand
in a fixed order.  Replies may hold more than what is looked at.
-/

namespace CitedAnswers.Remote

open CitedAnswers.Chat (Message)
open CitedAnswers.Json (Decoder Record)
open CitedAnswers.Number (Binary32)
open CitedAnswers.Sources (Passage)

/-! ## Requests -/

def embeddingDocument (model text : String) : Json :=
  .object [("model", .string model), ("input", .array [.string text])]

def completionDocument (model : String) (conversation : List Message) (temperature : Binary32) :
    Json :=
  .object [
    ("model", .string model),
    ("messages", .array (conversation.map Message.toJson)),
    ("temperature", .number (.single temperature))]

def queryDocument (partition : String) (vector : List Binary32) (topK : Nat) : Json :=
  .object [
    ("namespace", .string partition),
    ("vector", .array (vector.map fun x => .number (.single x))),
    ("topK", .number (.whole topK)),
    ("includeValues", .bool false),
    ("includeMetadata", .bool true)]

def analysisDocument (text language : String) : Json :=
  .object [("text", .string text), ("language", .string language)]

/-- Asks for a text without the personal data that was found in it. -/
def anonymizationDocument (text : String) (entities : List Json) : Json :=
  .object [("text", .string text), ("analyzer_results", .array entities)]

/-! ## Replies -/

/-- The record of this name whose only field that matters is the named one.  `absent` stands for the
field where there is none. -/
def soleField {α : Type} (name field : String) (d : Decoder α) (absent : Option α)
    (mayEnd : Bool) : Record (Option α) α where
  name := name
  fields := [{
    name := field
    isSet := Option.isSome
    read := fun depth _ text => Json.mapResult some (d depth text)
    mayEnd := mayEnd }]
  start := none
  finish
    | some a => .ok a
    | none => match absent with
      | some a => .ok a
      | none => .error field

def vectorsDecoder : Decoder (List (List Binary32)) :=
  let vector := (soleField "EmbeddingData" "embedding" (Decoder.list Decoder.single) none false)
  (soleField "EmbeddingResponse" "data" (Decoder.list vector.decoder) none false).decoder

/-- The texts of the choices of a reply; a text may be null or absent. -/
def choicesDecoder : Decoder (List (Option String)) :=
  let message := soleField "ChatChoiceMessage" "content" (Decoder.nullable Decoder.string)
    (some none) false
  let choice := soleField "ChatChoice" "message" message.decoder none false
  (soleField "ChatResponse" "choices" (Decoder.list choice.decoder) none false).decoder

/-- The metadata of the matches of a reply.  There may be no matches, and a match may have no
metadata. -/
def matchesDecoder : Decoder (List Json) :=
  let one := soleField "Match" "metadata" Decoder.value (some .null) true
  (soleField "QueryResponse" "matches" (Decoder.list one.decoder) (some []) true).decoder

def entitiesDecoder : Decoder (List Json) :=
  Decoder.list Decoder.value

def anonymizedDecoder : Decoder String :=
  (soleField "AnonymizeResponse" "text" Decoder.string none false).decoder

/-! ## What is wanted of them -/

def firstVector : List (List Binary32) → Except String (List Binary32)
  | [] => .error "no embedding in response"
  | vector :: _ => .ok vector

def firstChoice : List (Option String) → Except String String
  | some text :: _ => .ok text
  | _ => .error "no message content in completion"

def passages (metadata : List Json) : Except String (List Passage) :=
  .ok (metadata.map Passage.ofMetadata)

end CitedAnswers.Remote
