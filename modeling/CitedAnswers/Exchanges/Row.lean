/-! # Rows of comma-separated values

A row is written on a line of its own, its fields with commas between them.  A field is put between
quotes when it holds a comma, a quote or a line end, and then every quote in it is doubled; all
other fields are written as they are.
-/

namespace CitedAnswers.Exchanges

/-- Whether a character may only stand between quotes. -/
def needsQuotes (c : Char) : Bool :=
  c == ',' || c == '"' || c == '\n' || c == '\r'

/-- The characters of a field between quotes. -/
def doubleQuotes (cs : List Char) : List Char :=
  cs.flatMap fun c => if c = '"' then ['"', '"'] else [c]

def writeField (field : String) : List Char :=
  let cs := field.toList
  if cs.any needsQuotes then '"' :: doubleQuotes cs ++ ['"'] else cs

def writeFields : List String → List Char
  | [] => []
  | field :: rest =>
    match rest with
    | [] => writeField field
    | _ :: _ => writeField field ++ ',' :: writeFields rest

def writeRow (fields : List String) : String :=
  String.ofList (writeFields fields ++ ['\n'])

end CitedAnswers.Exchanges
