import CitedAnswers.Answering.Dialogue

/-! # Evidence for a question

The passages nearest to a question are found by way of its vector.  A question without a vector has
no evidence (`locate`), and a search that fails finds nothing (`search`).
-/

namespace CitedAnswers.Answering

open CitedAnswers.Number (Binary32)
open CitedAnswers.Sources (Passage)

/-- The vector of a question.  An empty vector is none. -/
def locate (question : String) : Dialogue (Option (List Binary32)) := do
  match ← Dialogue.call (.embed question) with
  | .ok (x :: xs) => pure (some (x :: xs))
  | _ => pure none

def search (topK : Nat) (vector : List Binary32) : Dialogue (List Passage) := do
  match ← Dialogue.call (.query vector topK) with
  | .ok passages => pure passages
  | .error _ => pure []

end CitedAnswers.Answering
