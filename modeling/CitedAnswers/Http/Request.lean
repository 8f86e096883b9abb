import CitedAnswers.Data.Association

/-! # Requests

A request has a method, a target, header fields and a body.  The names of header fields are compared
without regard to case: they are kept in lower case, each once, and a field that is given again
replaces the earlier one (`Headers.set`).
-/

namespace CitedAnswers.Http

/-! ## Header fields -/

/-- Header fields, in the order in which their names first came. -/
abbrev Headers := List (String × String)

namespace Headers

def set (name value : String) (headers : Headers) : Headers :=
  Association.put (name.map Char.toLower) value headers

/-- The fields that were given one after the other. -/
def ofList (fields : List (String × String)) : Headers :=
  fields.foldl (fun headers (name, value) => headers.set name value) []

end Headers

/-- Whether a value is text: visible ASCII characters, spaces and tabs. -/
def isVisible (value : String) : Bool :=
  value.toList.all fun c => c == '\t' || (' ' ≤ c && c ≤ '~')

/-! ## Requests -/

structure Request where
  method : String
  target : String
  headers : Headers
  body : List UInt8
  deriving DecidableEq, Repr

end CitedAnswers.Http
