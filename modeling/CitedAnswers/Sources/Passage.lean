import CitedAnswers.Json.Value

/-! # Passages

A passage is a piece of a transcript that the index found, with the title of its video and a link to
it.  Passages come as metadata that may lack any part: each part has a default, and an empty link
counts as none (`Passage.ofMetadata`).

The texts of the passages together are the context that an answer is based on (`context`).
-/

namespace CitedAnswers.Sources

structure Passage where
  text : String
  title : String
  link : Option String
  deriving DecidableEq, Repr

def fallbackTitle : String := "Video Link"

namespace Passage

/-- A text among the metadata, if it is there and is a text. -/
def textUnder (key : String) (metadata : Json) : Option String :=
  (metadata.member? key).bind Json.text?

def ofMetadata (metadata : Json) : Passage where
  text := (textUnder "text" metadata).getD ""
  title := (textUnder "Title" metadata).getD fallbackTitle
  link := (textUnder "Link" metadata).filter (· ≠ "")

end Passage

/-- What stands between two passages of a context. -/
def passageSeparator : String := "\n\n---\n\n"

/-- The texts of all passages, in order. -/
def context (passages : List Passage) : String :=
  passageSeparator.intercalate (passages.map Passage.text)

end CitedAnswers.Sources
