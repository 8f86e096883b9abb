import CitedAnswers.Answering.Dialogue

/-! # Questions without personal data

Before a question is used to look anything up, the personal data in it is replaced (`redact`).  A
question without personal data goes on as it is.
-/

namespace CitedAnswers.Answering

/-- The question with its personal data replaced. -/
def redact (language question : String) : Dialogue (Except ServiceError String) := do
  match ← Dialogue.call (.analyze question language) with
  | .error e => pure (.error e)
  | .ok [] => pure (.ok question)
  | .ok (entity :: entities) => Dialogue.call (.anonymize question (entity :: entities))

end CitedAnswers.Answering
