import CitedAnswers.Http.Target
import CitedAnswers.Text.Split

/-! # Routes

The program is reached under a few paths, each by one method (`Route.method`).  A path is matched
segment by segment, and one slash at its end does not matter.
-/

namespace CitedAnswers.Http

inductive Route where
  | chat
  | models
  | health
  | metrics
  deriving DecidableEq, Repr

/-- The segments of a path: the pieces between slashes behind the one at its beginning, without the
empty piece that a slash at its end leaves. -/
def segments (path : List Char) : List String :=
  let relative := match path with
    | '/' :: rest => rest
    | _ => path
  let all := (Text.pieces '/' relative).map String.ofList
  if all.getLast? = some "" then all.dropLast else all

namespace Route

def ofSegments? : List String → Option Route
  | [] => some health
  | ["health"] => some health
  | ["models"] => some models
  | ["metrics"] => some metrics
  | ["chat", "completions"] => some chat
  | _ => none

def ofTarget? (target : String) : Option Route :=
  ofSegments? (segments (path target))

def method : Route → String
  | chat => "POST"
  | _ => "GET"

end Route

end CitedAnswers.Http
