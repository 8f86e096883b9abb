import CitedAnswers.Answering.Ending

/-! # Counting turns

A tally counts turns by their outcome, and the citations that were shown.  Outcomes are kept in
increasing order, each once, and one that was never counted is not there.  Counts are 64-bit words
and wrap.
-/

namespace CitedAnswers.Metrics

open CitedAnswers.Answering (Ending)

structure Tally where
  outcomes : List (String × UInt64)
  citations : UInt64
  deriving DecidableEq, Repr

def increment (name : String) : List (String × UInt64) → List (String × UInt64)
  | [] => [(name, 1)]
  | (n, count) :: rest =>
    if name < n then (name, 1) :: (n, count) :: rest
    else if name = n then (n, count + 1) :: rest
    else (n, count) :: increment name rest

namespace Tally

/-- The tally before the first turn. -/
def empty : Tally := ⟨[], 0⟩

def countOutcome (outcome : String) (t : Tally) : Tally :=
  { t with outcomes := increment outcome t.outcomes }

def countCitations (n : Nat) (t : Tally) : Tally :=
  { t with citations := t.citations + UInt64.ofNat n }

def count (e : Ending) (t : Tally) : Tally :=
  (t.countOutcome e.outcome).countCitations e.cited

end Tally

end CitedAnswers.Metrics
