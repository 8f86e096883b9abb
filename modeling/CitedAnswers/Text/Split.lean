/-! # Splitting

The pieces of a text between the occurrences of a separator (`pieces`).  Of two separators
with nothing between them comes an empty piece.
-/

namespace CitedAnswers.Text

def pieces (separator : Char) : List Char → List (List Char)
  | [] => [[]]
  | c :: rest =>
    if c = separator then [] :: pieces separator rest
    else
      match pieces separator rest with
      | [] => [[c]]
      | piece :: more => (c :: piece) :: more

end CitedAnswers.Text
