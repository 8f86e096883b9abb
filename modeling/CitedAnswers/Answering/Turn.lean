import CitedAnswers.Answering.Evidence
import CitedAnswers.Answering.Prompt
import CitedAnswers.Answering.Question

/-! # Turns

A turn answers the last question of a conversation: personal data is removed from the question, the
passages nearest to it are found, and the model answers the conversation from them (`answer`).

The services that look things up see the question without personal data and nothing else of the
conversation; the model that writes the answer sees the conversation as it is.
-/

namespace CitedAnswers.Answering

open CitedAnswers.Chat (Message lastUserText?)
open CitedAnswers.Number (Binary32)
open CitedAnswers.Sources (Citation)

/-- How questions are answered: the language they are in, how many passages to look for, and how
freely the model may write. -/
structure Manner where
  language : String
  topK : Nat
  temperature : Binary32
  deriving DecidableEq, Repr

/-- Answers a question from what can be found for it. -/
def answerQuestion (manner : Manner) (conversation : List Message) (question : String) :
    Dialogue Ending := do
  match ← redact manner.language question with
  | .error e => pure (.redactionFailed e)
  | .ok safe =>
    match ← locate safe with
    | none => pure .embeddingFailed
    | some vector =>
      match ← search manner.topK vector with
      | [] => pure .searchFailed
      | p :: ps =>
        compose manner.temperature conversation question (Sources.context (p :: ps))
          (Citation.collect (p :: ps))

def answer (manner : Manner) (conversation : List Message) : Dialogue Ending :=
  match lastUserText? conversation with
  | none => pure .noQuestion
  | some question => answerQuestion manner conversation question

end CitedAnswers.Answering
