import CitedAnswers.Sources.Citation
import CitedAnswers.Text.Blank
import CitedAnswers.Text.Lowercase

/-! # When sources are shown

Sources belong below answers to questions.  They are left out when the question is a task that the
chat program set itself, and when the answer is one of the set phrases that are based on no passage
(`mayCite`).
-/

namespace CitedAnswers.Sources

open CitedAnswers.Text (trim lower occursIn)

/-- How a task of the chat program begins. -/
def taskMarker : String := "### Task:"

/-- Whether a question is a task of the chat program.  Blanks in front do not matter. -/
def isTask (question : String) : Bool :=
  taskMarker.toList.isPrefixOf (trim question.toList)

/-- Parts of the set phrases, in lower case. -/
def setPhrases : List String := [
  "assalamualaikum",
  "wailikum assalam",
  "allah and his messenger know best",
  "that's not important — what truly matters is who created us all"]

/-- Whether an answer contains a set phrase, in capitals or not. -/
def isSetPhrase (answer : String) : Bool :=
  let text := lower answer.toList
  setPhrases.any fun phrase => occursIn phrase.toList text

/-- Whether sources may be shown below this answer to this question. -/
def mayCite (question answer : String) : Bool :=
  !isTask question && !isSetPhrase answer

/-- The citations that are shown below this answer to this question. -/
def shown (question answer : String) (citations : List Citation) : List Citation :=
  if mayCite question answer then citations else []

/-- The answer with its sources below it. -/
def cite (question answer : String) (citations : List Citation) : String :=
  answer ++ Citation.footer (shown question answer citations)

end CitedAnswers.Sources
