import CitedAnswers.Answering.Dialogue
import CitedAnswers.Sources.Policy

/-! # How turns end

A turn of a conversation ends in one of six ways.  The ending alone decides what the user is told
(`Ending.reply`), which outcome is counted (`Ending.outcome`), how many citations were shown
(`Ending.cited`) and what is recorded of it (`Ending.record?`).

Only lost redaction is an error to the user: nothing may go on with text that may hold personal
data.  All other failures are answered with an apology.
-/

namespace CitedAnswers.Answering

open CitedAnswers.Sources (Citation shown)

/-- An answered question as it is recorded: the question as the user put it, the context that was
found, and the answer as the user got it. -/
structure Answered where
  question : String
  context : String
  answer : String
  deriving DecidableEq, Repr

inductive Ending where
  | noQuestion
  | redactionFailed (error : ServiceError)
  | embeddingFailed
  | searchFailed
  | generationFailed
  /-- The question was answered from this context with this completion; these are its sources. -/
  | answered (question context completion : String) (citations : List Citation)
  deriving DecidableEq, Repr

namespace Ending

/-! ## What the user is told -/

/-- What the user is told, or the error that kept the question from being looked at. -/
def reply : Ending → Except ServiceError String
  | noQuestion => .ok "No user message found."
  | redactionFailed error => .error error
  | embeddingFailed =>
    .ok "Sorry, I couldn't process your request... (Backend Error - Embedding)"
  | searchFailed =>
    .ok "Sorry, I couldn't process your request... (Backend Error - Search Pinecone)"
  | generationFailed => .ok "Sorry, I couldn't process your request... (Backend Error - LLM)"
  | answered question _ completion citations => .ok (Sources.cite question completion citations)

/-- The wording of the error that keeps a question from being looked at. -/
def refusal (error : ServiceError) : String :=
  "PII redaction failed: " ++ error.message

/-! ## What is kept of it -/

def outcome : Ending → String
  | noQuestion => "no_user_message"
  | redactionFailed _ => "error"
  | embeddingFailed => "embedding_failed"
  | searchFailed => "search_failed"
  | generationFailed => "generation_failed"
  | answered .. => "answered"

def cited : Ending → Nat
  | answered question _ completion citations => (shown question completion citations).length
  | _ => 0

def record? : Ending → Option Answered
  | answered question context completion citations =>
    some ⟨question, context, Sources.cite question completion citations⟩
  | _ => none

end Ending

end CitedAnswers.Answering
