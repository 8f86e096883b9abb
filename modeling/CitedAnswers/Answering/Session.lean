import CitedAnswers.Answering.Turn
import CitedAnswers.Exchanges.Log
import CitedAnswers.Metrics.Tally

/-! # Sessions

A session is a series of turns.  What a turn leaves behind is the memory of the services, a tally
with one more turn, and, if it answered a question, a row in the log (`Session.turn`).  Neither the
log nor the tally has a part in how a turn ends.
-/

namespace CitedAnswers.Answering

open CitedAnswers.Chat (Message)
open CitedAnswers.Exchanges (Log Spot)
open CitedAnswers.Metrics (Tally)

/-- What is fixed over a session: the services, the manner of answering, and whether a log is
kept. -/
structure Setup (σ : Type) where
  services : Services σ
  manner : Manner
  log : Log

/-- What changes from turn to turn: the memory of the services, what stands at the path of the log,
and the tally. -/
structure Session (σ : Type) where
  memory : σ
  spot : Spot
  tally : Tally

/-- A turn that took place: its ending, the exchanges with services, and the session afterwards. -/
structure Played (σ : Type) where
  ending : Ending
  exchanges : List Exchange
  session : Session σ

variable {σ : Type}

def Session.enter (log : Log) (e : Ending) (s : Session σ) : Session σ where
  memory := s.memory
  spot := match e.record? with
    | some answered => log.record answered s.spot
    | none => s.spot
  tally := s.tally.count e

def Session.play (setup : Setup σ) (dialogue : Dialogue Ending) (s : Session σ) : Played σ :=
  let course := dialogue.run setup.services s.memory
  ⟨course.result, course.exchanges,
    Session.enter setup.log course.result { s with memory := course.memory }⟩

def Session.turn (setup : Setup σ) (conversation : List Message) (s : Session σ) : Played σ :=
  s.play setup (answer setup.manner conversation)

def Session.turns (setup : Setup σ) : List (List Message) → Session σ → List (Played σ)
  | [], _ => []
  | conversation :: rest, s =>
    let played := s.turn setup conversation
    played :: Session.turns setup rest played.session

end CitedAnswers.Answering
