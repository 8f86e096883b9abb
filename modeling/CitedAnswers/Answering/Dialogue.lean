import CitedAnswers.Chat.Message
import CitedAnswers.Sources.Passage

/-! # Dialogues with services

Answering a question takes the help of five services: two that find and replace personal data, one
that turns text into a vector, one that finds passages near a vector, and one that continues a
conversation.  A `Call` asks one of them for something, and its reply is a value of the kind that
the call asks for, or a `ServiceError`.

A `Dialogue` is a computation that makes calls and goes on with what it is replied.  It does not say
how calls are answered: `Dialogue.run` runs it against any services, which may remember what they
were asked, and keeps the calls with their replies in order.
-/

namespace CitedAnswers.Answering

open CitedAnswers.Chat (Message)
open CitedAnswers.Sources (Passage)
open CitedAnswers.Number (Binary32)

/-! ## Errors -/

inductive ServiceError where
  /-- The request or its reply was lost on the way, with what is told of it. -/
  | transport (reason : String)
  | status (service : String) (code : Nat) (body : String)
  /-- The reply is not what was asked for. -/
  | unusable (service reason : String)
  deriving DecidableEq, Repr

/-- The wording of an error. -/
def ServiceError.message : ServiceError → String
  | .transport reason => "HTTP client error: " ++ reason
  | .status service code body => service ++ " returned " ++ toString code ++ ": " ++ body
  | .unusable service reason => service ++ " returned an unusable response: " ++ reason

/-! ## Calls -/

inductive Call where
  /-- Finds the personal data in a text. -/
  | analyze (text language : String)
  /-- Replaces the personal data that was found. -/
  | anonymize (text : String) (entities : List Json)
  /-- Turns a text into a vector. -/
  | embed (text : String)
  /-- Finds the passages nearest to a vector. -/
  | query (vector : List Binary32) (topK : Nat)
  /-- Continues a conversation. -/
  | complete (conversation : List Message) (temperature : Binary32)
  deriving Repr

/-- What a call asks for. -/
abbrev Call.Value : Call → Type
  | .analyze .. => List Json
  | .anonymize .. => String
  | .embed .. => List Binary32
  | .query .. => List Passage
  | .complete .. => String

abbrev Call.Reply (call : Call) : Type :=
  Except ServiceError call.Value

structure Exchange where
  call : Call
  reply : call.Reply

/-! ## Dialogues -/

/-- A computation that makes calls. -/
inductive Dialogue (α : Type) where
  | done (result : α)
  | ask (call : Call) (next : call.Reply → Dialogue α)

namespace Dialogue

def bind {α β : Type} : Dialogue α → (α → Dialogue β) → Dialogue β
  | .done a, next => next a
  | .ask call reply, next => .ask call fun r => (reply r).bind next

instance : Monad Dialogue where
  pure := .done
  bind := .bind

def call (c : Call) : Dialogue c.Reply :=
  .ask c .done

end Dialogue

/-! ## Running -/

/-- Services with a memory: they answer any call and change their memory with it. -/
abbrev Services (σ : Type) := (call : Call) → σ → call.Reply × σ

/-- What a dialogue came to: its result, the exchanges in order, and the memory afterwards. -/
structure Course (σ α : Type) where
  result : α
  exchanges : List Exchange
  memory : σ

def Dialogue.run {σ α : Type} (services : Services σ) : Dialogue α → σ → Course σ α
  | .done a, memory => ⟨a, [], memory⟩
  | .ask call next, memory =>
    let (reply, memory) := services call memory
    let course := (next reply).run services memory
    { course with exchanges := ⟨call, reply⟩ :: course.exchanges }

def Course.calls {σ α : Type} (course : Course σ α) : List Call :=
  course.exchanges.map Exchange.call

end CitedAnswers.Answering
