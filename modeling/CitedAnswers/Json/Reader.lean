import CitedAnswers.Json.Lexeme

/-! # Reading JSON

Two readings of a value.

* `skipValue` passes over a value that does not matter, however deep it is nested.
* `readValue` gives the value.  It refuses to enter lists and objects that are nested too deeply
  (`depthLimit`); the depth that is left is what its recursion runs on.

The loops over the items of a list and the members of an object are shared with the decoders of
`Json.Decoder`: they take the reader of an item (`readList`) or of what follows a member's name
(`readObject`) as an argument.
-/

namespace CitedAnswers.Json

open CitedAnswers.Text

/-! ## Values that do not matter -/

/-- Passes over the name of a member and the colon behind it. -/
def skipName (text : List Symbol) : Except Failure (List Symbol) :=
  match text with
  | [] => failAt .endInObject []
  | s :: rest =>
    if s = .char '"' then
      match skipString rest with
      | .error e => .error e
      | .ok left =>
        match skipSpace left with
        | [] => failAt .endInObject []
        | c :: value => if c = .char ':' then .ok value else failPast .expectedColon (c :: value)
    else failPast .keyNotString (s :: rest)

/-- Passes over the items of a list, the first of which begins here, and the closing bracket. -/
def skipItems (item : List Symbol → Except Failure (List Symbol)) :
    (fuel : Nat) → List Symbol → Except Failure (List Symbol)
  | 0, text => failAt .nestedTooDeeply text
  | fuel + 1, text =>
    match item text with
    | .error e => .error e
    | .ok rest =>
      match skipSpace rest with
      | [] => failAt .endInList []
      | s :: left =>
        if s = .char ']' then .ok left
        else if s = .char ',' then skipItems item fuel left
        else failPast .expectedListCommaOrEnd (s :: left)

/-- Passes over the members of an object, the first of which begins here, and the closing brace. -/
def skipMembers (value : List Symbol → Except Failure (List Symbol)) :
    (fuel : Nat) → List Symbol → Except Failure (List Symbol)
  | 0, text => failAt .nestedTooDeeply text
  | fuel + 1, text =>
    match skipName (skipSpace text) with
    | .error e => .error e
    | .ok named =>
      match value named with
      | .error e => .error e
      | .ok rest =>
        match skipSpace rest with
        | [] => failAt .endInObject []
        | s :: left =>
          if s = .char '\x7d' then .ok left
          else if s = .char ',' then skipMembers value fuel left
          else failPast .expectedObjectCommaOrEnd (s :: left)

/-- Passes over a value.  A text of `fuel` symbols cannot nest deeper than `fuel`. -/
def skipNested : (fuel : Nat) → List Symbol → Except Failure (List Symbol)
  | 0, text => failAt .nestedTooDeeply text
  | fuel + 1, text =>
    match skipSpace text with
    | [] => failAt .endInValue []
    | s :: rest =>
      if s = .char 'n' then readLiteral ['u', 'l', 'l'] rest
      else if s = .char 't' then readLiteral ['r', 'u', 'e'] rest
      else if s = .char 'f' then readLiteral ['a', 'l', 's', 'e'] rest
      else if s = .char '-' then skipNumber rest
      else if (digit? s).isSome then skipNumber (s :: rest)
      else if s = .char '"' then skipString rest
      else if s = .char '[' then
        match skipSpace rest with
        | [] => failAt .endInList []
        | t :: left =>
          if t = .char ']' then .ok left
          else skipItems (skipNested fuel) (t :: left).length (t :: left)
      else if s = .char '\x7b' then
        match skipSpace rest with
        | [] => failAt .endInObject []
        | t :: left =>
          if t = .char '\x7d' then .ok left
          else skipMembers (skipNested fuel) (t :: left).length (t :: left)
      else failPast .expectedValue (s :: rest)

/-- Passes over a value. -/
def skipValue (text : List Symbol) : Except Failure (List Symbol) :=
  skipNested (text.length + 1) text

/-! ## Lists and objects -/

/-- Reads the items of a list, the first of which begins here, and the closing bracket. -/
def readItems {α : Type} (item : List Symbol → Outcome α) :
    (fuel : Nat) → List Symbol → Outcome (List α)
  | 0, text => failAt .nestedTooDeeply text
  | fuel + 1, text =>
    match item text with
    | .error e => .error e
    | .ok (a, rest) =>
      match skipSpace rest with
      | [] => failAt .endInList []
      | s :: left =>
        if s = .char ']' then .ok ([a], left)
        else if s = .char ',' then
          match skipSpace left with
          | [] => failAt .endInValue []
          | t :: next =>
            if t = .char ']' then failPast .trailingComma (t :: next)
            else
              match readItems item fuel (t :: next) with
              | .error e => .error e
              | .ok (as, end_) => .ok (a :: as, end_)
        else failPast .expectedListCommaOrEnd (s :: left)

/-- Reads a list whose opening bracket has been read. -/
def readList {α : Type} (item : List Symbol → Outcome α) (text : List Symbol) :
    Outcome (List α) :=
  match skipSpace text with
  | [] => failAt .endInList []
  | s :: rest =>
    if s = .char ']' then .ok ([], rest)
    else readItems item (s :: rest).length (s :: rest)

def readColon (text : List Symbol) : Except Failure (List Symbol) :=
  match skipSpace text with
  | [] => failAt .endInObject []
  | s :: rest => if s = .char ':' then .ok rest else failPast .expectedColon (s :: rest)

/-- Reads the members of an object, the first of which begins here with its opening quote, and the
closing brace.  `member` takes what was gathered so far and a name, and reads on behind the name. -/
def readMembers {σ : Type} (member : σ → String → List Symbol → Outcome σ) :
    (fuel : Nat) → σ → List Symbol → Outcome σ
  | 0, _, text => failAt .nestedTooDeeply text
  | fuel + 1, gathered, text =>
    match readString (text.drop 1) with
    | .error e => .error e
    | .ok (name, rest) =>
      match member gathered name rest with
      | .error e => .error e
      | .ok (gathered, rest) =>
        match skipSpace rest with
        | [] => failAt .endInObject []
        | s :: left =>
          if s = .char '\x7d' then .ok (gathered, left)
          else if s = .char ',' then
            match skipSpace left with
            | [] => failAt .endInValue []
            | t :: next =>
              if t = .char '"' then readMembers member fuel gathered (t :: next)
              else if t = .char '\x7d' then failPast .trailingComma (t :: next)
              else failPast .keyNotString (t :: next)
          else failPast .expectedObjectCommaOrEnd (s :: left)

/-- Reads an object whose opening brace has been read. -/
def readObject {σ : Type} (member : σ → String → List Symbol → Outcome σ) (start : σ)
    (text : List Symbol) : Outcome σ :=
  match skipSpace text with
  | [] => failAt .endInObject []
  | s :: rest =>
    if s = .char '\x7d' then .ok (start, rest)
    else if s = .char '"' then readMembers member (s :: rest).length start (s :: rest)
    else failPast .keyNotString (s :: rest)

/-! ## Values -/

/-- How many lists and objects may be open at once. -/
def depthLimit : Nat := 127

def literal {α : Type} (a : α) (tail : List Char) (text : List Symbol) : Outcome α :=
  match readLiteral tail text with
  | .error e => .error e
  | .ok rest => .ok (a, rest)

def mapResult {α β : Type} (f : α → β) : Outcome α → Outcome β
  | .error e => .error e
  | .ok (a, rest) => .ok (f a, rest)

/-- Reads a value that opens at most `depth` lists and objects at once. -/
def readValue (depth : Nat) (text : List Symbol) : Outcome Json :=
  match skipSpace text with
  | [] => failAt .endInValue []
  | s :: rest =>
    if s = .char 'n' then literal .null ['u', 'l', 'l'] rest
    else if s = .char 't' then literal (.bool true) ['r', 'u', 'e'] rest
    else if s = .char 'f' then literal (.bool false) ['a', 'l', 's', 'e'] rest
    else if s = .char '-' then mapResult .number (readNumber true rest)
    else if (digit? s).isSome then mapResult .number (readNumber false (s :: rest))
    else if s = .char '"' then mapResult .string (readString rest)
    else if s = .char '[' then
      match depth with
      | 0 => failPast .nestedTooDeeply (s :: rest)
      | depth + 1 => mapResult .array (readList (readValue depth) rest)
    else if s = .char '\x7b' then
      match depth with
      | 0 => failPast .nestedTooDeeply (s :: rest)
      | depth + 1 =>
        mapResult .object (readObject (fun members name text =>
          match readColon text with
          | .error e => .error e
          | .ok text => mapResult (insertMember name · members) (readValue depth text)) [] rest)
    else failPast .expectedValue (s :: rest)

/-! ## Whole documents -/

/-- Reads a text that is one value and nothing else. -/
def readDocument {α : Type} (read : List Symbol → Outcome α) (text : List Symbol) :
    Except Error α :=
  match read text with
  | .error e => .error (e.within text)
  | .ok (a, rest) =>
    match skipSpace rest with
    | [] => .ok a
    | s :: left => .error (Failure.within text ⟨.trailingCharacters, width (s :: left) - 1⟩)

def parse (text : String) : Except Error Json :=
  readDocument (readValue depthLimit) (symbols text.toList)

end CitedAnswers.Json
