import CitedAnswers.Number.Numeral
import CitedAnswers.Text.Blank

/-! # Time markers

A transcript passage names the stretch of the video it comes from, as in `[12.5 – 30.1]`.  The start
is the run of digits and points between the bracket and the dash, blanks aside.

The first place where such a marker begins decides (`firstRun?`), also when its run is no number; a
passage without a start begins at zero (`startSeconds`).
-/

namespace CitedAnswers.Sources

open CitedAnswers.Text (trimStart)
open CitedAnswers.Number (Binary Binary64 pointed?)

/-- The dash between the two times of a marker. -/
def dash : Char := '–'

/-- Whether a character may stand in the run of a marker. -/
def isRunChar (c : Char) : Bool :=
  c.isDigit || c == '.'

/-- The run of the marker that begins with the first character, if one does. -/
def runHere? : List Char → Option (List Char)
  | [] => none
  | c :: rest =>
    if c = '[' then
      let body := trimStart rest
      let run := body.takeWhile isRunChar
      let behind := trimStart (body.dropWhile isRunChar)
      if !run.isEmpty && behind.head? == some dash then some run else none
    else none

def firstRun? : List Char → Option (List Char)
  | [] => none
  | c :: rest =>
    match runHere? (c :: rest) with
    | some run => some run
    | none => firstRun? rest

/-- The whole seconds of a run: its value, rounded to double precision and cut off.  A run that is
no number counts as zero. -/
def runSeconds (run : List Char) : Nat :=
  match pointed? run with
  | none => 0
  | some p => (Binary.ofDecimal false p.coefficient (-(p.places : Int)) : Binary64).toWord

def startSeconds (text : String) : Nat :=
  match firstRun? text.toList with
  | none => 0
  | some run => runSeconds run

end CitedAnswers.Sources
