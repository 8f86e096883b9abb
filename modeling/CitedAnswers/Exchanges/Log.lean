import CitedAnswers.Answering.Ending
import CitedAnswers.Exchanges.Row
import CitedAnswers.Exchanges.Spot

/-! # The log of exchanges

Answered questions can be kept in a file of comma-separated values.  Each is appended as one row,
and a file that is new or empty gets a header before it (`append`).  Nothing else of the file is
looked at or changed.
-/

namespace CitedAnswers.Exchanges

open CitedAnswers.Answering (Answered)

/-! ## Appending -/

def columns : List String := ["Question", "Context", "Answer"]

def row (e : Answered) : String :=
  writeRow [e.question, e.context, e.answer]

def extend (content : String) (e : Answered) : String :=
  (if content = "" then writeRow columns else content) ++ row e

/-- Appends an exchange to the file at a path.  A path that cannot be written to stays as it is. -/
def append (e : Answered) (spot : Spot) : Except WriteError Unit × Spot :=
  match spot.writable? with
  | .ok content => (.ok (), .file (extend content e))
  | .error error => (.error error, spot)

/-! ## The log -/

/-- A log that is kept or is not. -/
inductive Log where
  | disabled
  | enabled
  deriving DecidableEq, Repr

namespace Log

def append (e : Answered) : Log → Spot → Except WriteError Unit × Spot
  | disabled, spot => (.ok (), spot)
  | enabled, spot => Exchanges.append e spot

/-- Records an exchange: appends it, and lets an error pass. -/
def record (log : Log) (e : Answered) (spot : Spot) : Spot :=
  (log.append e spot).2

end Log

end CitedAnswers.Exchanges
