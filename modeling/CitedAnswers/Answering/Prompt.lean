import CitedAnswers.Answering.Ending

/-! # Prompts

The model that writes an answer is shown its instructions, the conversation as it is, and one more
message of the user that holds the context (`prompt`).  What it replies is the completion
(`compose`).
-/

namespace CitedAnswers.Answering

open CitedAnswers.Chat (Message)
open CitedAnswers.Number (Binary32)
open CitedAnswers.Sources (Citation)

def instructionLines : List String := [
  "You are an Islamic Assistant that answers questions based on the teachings of Shaykh Dr. Yasir Qadhi.",
  "",
  "Guidelines:",
  "• You will receive a user's question and a related context (transcripts from Shaykh Yasir Qadhi's videos).",
  "• Summarize the relevant parts of the transcript into a clear, human-readable answer in Markdown format.",
  "• If the context clearly does not contain any relevant information, respond only with:",
  "\"Allah and His Messenger know best (I couldn't find the answer in Shaykh Yasir Qadhi's videos).\"",
  "• Be concise, respectful, and accurate in your responses.",
  "• You may respond to general messages such as greetings.",
  "- If the user says \"hi\", \"hello\", or similar, greet them with:",
  "    \"Assalamualaikum Warahmatullahi Wabaraktuh",
  "    How are you doing today? What questions answer for you?\"",
  "- For Islamic greetings, respond with:",
  "    \"Wailikum Assalam Warahmatullahi Wabarakatuh\"",
  "• If asked who created you, respond with:",
  "\"That's not important — what truly matters is who created us all: Allah (SWT).\""]

def instructions : String :=
  "\n".intercalate instructionLines

def contextMessage (context : String) : Message :=
  .user ("Context:\n" ++ context ++
    "\n\nBased on this context, please answer the above conversation.")

def prompt (conversation : List Message) (context : String) : List Message :=
  .system instructions :: conversation ++ [contextMessage context]

/-- Has the last question of a conversation answered from a context. -/
def compose (temperature : Binary32) (conversation : List Message) (question context : String)
    (citations : List Citation) : Dialogue Ending := do
  match ← Dialogue.call (.complete (prompt conversation context) temperature) with
  | .ok completion => pure (.answered question context completion citations)
  | .error _ => pure .generationFailed

end CitedAnswers.Answering
