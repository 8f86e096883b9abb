import CitedAnswers.Metrics.Tally
import CitedAnswers.Number.Notation

/-! # Exposition of a tally

A tally is shown as text, line by line: for each metric its help and its type, then its samples, one
sample for each outcome in increasing order.  A metric without samples is left out.

The counter of citations always has its sample: it is taken as registered from the beginning, also
if no citation was counted yet.  A process that registers it with the first footer leaves it out
until then.

Samples are real numbers, so a count past `2 ^ 53` is shown as the double nearest to it.
-/

namespace CitedAnswers.Metrics

open CitedAnswers.Number (Binary Binary64 binary64)

def contentType : String := "text/plain; version=0.0.4"

def sampleValue (n : UInt64) : String :=
  if n.toNat < Nat.pow 2 binary64.precision then toString n.toNat
  else (Binary.ofNat n.toNat : Binary64).positional

/-- A character of a label as it is written between the quotes. -/
def labelChar (c : Char) : List Char :=
  if c = '\\' then ['\\', '\\']
  else if c = '\n' then ['\\', 'n']
  else if c = '"' then ['\\', '"']
  else [c]

/-- The value of a label as it is written between the quotes. -/
def label (value : String) : String :=
  String.ofList (value.toList.flatMap labelChar)

def outcomeSample (outcome : String) (count : UInt64) : String :=
  "answers_total\x7boutcome=\"" ++ label outcome ++ "\"\x7d " ++ sampleValue count

def citationSample (count : UInt64) : String :=
  "citations_attached_total " ++ sampleValue count

def outcomeSamples (t : Tally) : List String :=
  t.outcomes.map fun (outcome, count) => outcomeSample outcome count

def samples (t : Tally) : List String :=
  outcomeSamples t ++ [citationSample t.citations]

/-- The help and type of a counter before its samples, unless there are none. -/
def family (name help : String) (samples : List String) : List String :=
  if samples.isEmpty then []
  else ("# HELP " ++ name ++ " " ++ help) :: ("# TYPE " ++ name ++ " counter") :: samples

def lines (t : Tally) : List String :=
  family "answers_total" "Chat completion requests by pipeline outcome" (outcomeSamples t) ++
    family "citations_attached_total" "Source citations appended to answers"
      [citationSample t.citations]

def exposition (t : Tally) : String :=
  String.join ((lines t).map (· ++ "\n"))

end CitedAnswers.Metrics
