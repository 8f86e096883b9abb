import CitedAnswers.Text.Prefix

/-! # Targets

The target of a request comes in one of four forms: a path, an address with scheme and host, a host
alone, or a star.  Only the path matters (`path`).  A target that is a host alone has none, and an
address that stops behind its host has the path of the root.  Neither a query nor a fragment belongs
to the path.
-/

namespace CitedAnswers.Http

/-- Whether a character may stand in the scheme of an address. -/
def isSchemeChar (c : Char) : Bool :=
  c.isAlphanum || c == '+' || c == '-' || c == '.'

/-- Whether a character ends the host of an address. -/
def endsHost (c : Char) : Bool :=
  c == '/' || c == '?' || c == '#'

/-- What stands behind the scheme of an address and the mark after it. -/
def behindScheme? (target : List Char) : Option (List Char) :=
  Text.behind? [':', '/', '/'] (target.dropWhile isSchemeChar)

/-- All before a query or fragment. -/
def beforeQuery (target : List Char) : List Char :=
  target.takeWhile fun c => c ≠ '?' ∧ c ≠ '#'

def path (target : String) : List Char :=
  match target.toList with
  | '/' :: rest => '/' :: beforeQuery rest
  | ['*'] => ['*']
  | text =>
    match behindScheme? text with
    | none => []
    | some host =>
      match beforeQuery (host.dropWhile fun c => !endsHost c) with
      | [] => ['/']
      | path => path

end CitedAnswers.Http
