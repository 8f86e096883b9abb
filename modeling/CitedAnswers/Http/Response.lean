import CitedAnswers.Http.Request
import CitedAnswers.Json.Printer

/-! # Responses

A response has a status, the header fields that the program sets, and a text.
-/

namespace CitedAnswers.Http

/-- A response of the program.  Header fields are in the order of their names. -/
structure Response where
  status : Nat
  headers : Headers
  body : String
  deriving DecidableEq, Repr

namespace Response

def json (status : Nat) (document : Json) : Response :=
  ⟨status, [("content-type", "application/json")], document.render⟩

/-- Plain text that says why a request is refused. -/
def notice (status : Nat) (text : String) : Response :=
  ⟨status, [("content-type", "text/plain; charset=utf-8")], text⟩

/-- Nothing but a status. -/
def bare (status : Nat) : Response :=
  ⟨status, [], ""⟩

/-- A document whose one member tells what went wrong. -/
def detail (status : Nat) (text : String) : Response :=
  json status (.object [("detail", .string text)])

end Response

end CitedAnswers.Http
