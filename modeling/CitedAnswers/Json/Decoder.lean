import CitedAnswers.Json.Reader

/-! # Decoders

A decoder reads a value of one shape straight from a text, so that the first thing in the text that
is wrong is the one that is reported, be it a fault of the text or of its shape.

Shapes are strings, single-precision numbers, arbitrary values, values that may be null, lists and
records.  A record is an object with the members that its fields name, in any order and among other
members, none of its own twice, or the list of its fields in order (`Record`).
-/

namespace CitedAnswers.Json

open CitedAnswers.Text
open CitedAnswers.Number (Binary32 Binary)

/-- Reads a value of one shape that opens at most so many lists and objects at once. -/
abbrev Decoder (α : Type) := (depth : Nat) → List Symbol → Outcome α

/-- Refuses the value that begins here because something else is wanted.  Scalars are read to their
end first; lists and objects are not entered. -/
def refuse {α : Type} (wanted : Wanted) (text : List Symbol) : Except Failure α :=
  match text with
  | [] => failAt .endInValue []
  | s :: rest =>
    if s = .char 'n' then wrong (literal .null ['u', 'l', 'l'] rest)
    else if s = .char 't' then wrong (literal (.boolean true) ['r', 'u', 'e'] rest)
    else if s = .char 'f' then wrong (literal (.boolean false) ['a', 'l', 's', 'e'] rest)
    else if s = .char '-' then wrong (mapResult .number (readNumber true rest))
    else if (digit? s).isSome then wrong (mapResult .number (readNumber false (s :: rest)))
    else if s = .char '"' then wrong (mapResult .string (readString rest))
    else if s = .char '[' then failAt (.wrongType .sequence wanted) text
    else if s = .char '\x7b' then failAt (.wrongType .map wanted) text
    else failPast .expectedValue text
where
  wrong : Outcome Found → Except Failure α
    | .error e => .error e
    | .ok (found, rest) => failAt (.wrongType found wanted) rest

namespace Decoder

/-! ## Scalars -/

def string : Decoder String := fun _ text =>
  match skipSpace text with
  | [] => failAt .endInValue []
  | s :: rest => if s = .char '"' then readString rest else refuse .string (s :: rest)

/-- A number in single precision.  Whole numbers are rounded once, doubles once more. -/
def toSingle : Numeric → Binary32
  | .whole n => Binary.ofInt n
  | .double x => x.convert
  | .single x => x

/-- A number, rounded to single precision. -/
def single : Decoder Binary32 := fun _ text =>
  match skipSpace text with
  | [] => failAt .endInValue []
  | s :: rest =>
    if s = .char '-' then mapResult toSingle (readNumber true rest)
    else if (digit? s).isSome then mapResult toSingle (readNumber false (s :: rest))
    else refuse .single (s :: rest)

def value : Decoder Json := readValue

def nullable {α : Type} (d : Decoder α) : Decoder (Option α) := fun depth text =>
  match skipSpace text with
  | [] => mapResult some (d depth [])
  | s :: rest =>
    if s = .char 'n' then literal none ['u', 'l', 'l'] rest
    else mapResult some (d depth (s :: rest))

/-! ## Lists -/

def list {α : Type} (d : Decoder α) : Decoder (List α) := fun depth text =>
  match skipSpace text with
  | [] => failAt .endInValue []
  | s :: rest =>
    if s = .char '[' then
      match depth with
      | 0 => failPast .nestedTooDeeply (s :: rest)
      | depth + 1 => readList (d depth) rest
    else refuse .sequence (s :: rest)

end Decoder

/-! ## Records -/

structure Field (σ : Type) where
  name : String
  /-- Whether the field has been read already. -/
  isSet : σ → Bool
  read : (depth : Nat) → σ → List Symbol → Outcome σ
  /-- Whether the list form may end before the field. -/
  mayEnd : Bool := false

/-- A record: its name, its fields in order, and how what was gathered makes an `α`, unless a field
is missing. -/
structure Record (σ α : Type) where
  name : String
  fields : List (Field σ)
  start : σ
  finish : σ → Except String α

namespace Record

variable {σ α : Type}

def field? (r : Record σ α) (name : String) : Option (Field σ) :=
  r.fields.find? (·.name = name)

/-- Drops the white space in front and a closing brace behind it. -/
def pastClosingBrace (text : List Symbol) : List Symbol :=
  match skipSpace text with
  | [] => []
  | s :: rest => if s = .char '\x7d' then rest else s :: rest

/-- Reads a member of the object form behind its name. -/
def readMember (r : Record σ α) (depth : Nat) (gathered : σ) (name : String)
    (text : List Symbol) : Outcome σ :=
  match r.field? name with
  | some f =>
    if f.isSet gathered then failAt (.duplicateField name) (pastClosingBrace text)
    else
      match readColon text with
      | .error e => .error e
      | .ok rest => f.read depth gathered rest
  | none =>
    match readColon text with
    | .error e => .error e
    | .ok rest =>
      match skipValue rest with
      | .error e => .error e
      | .ok rest => .ok (gathered, rest)

/-- What is made of the fields that were gathered. -/
def conclude (r : Record σ α) (gathered : σ) (rest : List Symbol) : Outcome α :=
  match r.finish gathered with
  | .ok a => .ok (a, rest)
  | .error name => failAt (.missingField name) rest

/-- Reads the closing bracket of the list form. -/
def readEnd (text : List Symbol) : Except Failure (List Symbol) :=
  match skipSpace text with
  | [] => failAt .endInList []
  | s :: rest =>
    if s = .char ']' then .ok rest
    else if s = .char ',' then
      match skipSpace rest with
      | [] => failPast .trailingCharacters []
      | t :: left =>
        if t = .char ']' then failPast .trailingComma (t :: left)
        else failPast .trailingCharacters (t :: left)
    else failPast .trailingCharacters (s :: rest)

/-- Finds the next element of the list form: none when the closing bracket stands here. -/
def nextElement (first : Bool) (text : List Symbol) : Except Failure (Option (List Symbol)) :=
  match skipSpace text with
  | [] => failAt .endInList []
  | s :: rest =>
    if s = .char ']' then .ok none
    else if first then .ok (some (s :: rest))
    else if s = .char ',' then
      match skipSpace rest with
      | [] => failAt .endInValue []
      | t :: left =>
        if t = .char ']' then failPast .trailingComma (t :: left) else .ok (some (t :: left))
    else failPast .expectedListCommaOrEnd (s :: rest)

/-- Reads the fields of the list form from the one at `index` on. -/
def readFields (r : Record σ α) (depth : Nat) :
    List (Field σ) → (index : Nat) → (first : Bool) → σ → List Symbol → Outcome σ
  | [], _, _, gathered, text =>
    match readEnd text with
    | .error e => .error e
    | .ok rest => .ok (gathered, rest)
  | f :: fs, index, first, gathered, text =>
    match nextElement first text with
    | .error e => .error e
    | .ok (some element) =>
      match f.read depth gathered element with
      | .error e => .error e
      | .ok (gathered, rest) => readFields r depth fs (index + 1) false gathered rest
    | .ok none =>
      if f.mayEnd then readFields r depth fs (index + 1) first gathered text
      else
        match readEnd text with
        | .error e => .error e
        | .ok rest => failAt (.wrongLength index (.fields r.name r.fields.length)) rest

/-- Decodes the record in either of its forms. -/
def decoder (r : Record σ α) : Decoder α := fun depth text =>
  match skipSpace text with
  | [] => failAt .endInValue []
  | s :: rest =>
    if s = .char '[' then
      match depth with
      | 0 => failPast .nestedTooDeeply (s :: rest)
      | depth + 1 =>
        match r.readFields depth r.fields 0 true r.start rest with
        | .error e => .error e
        | .ok (gathered, rest) => r.conclude gathered rest
    else if s = .char '\x7b' then
      match depth with
      | 0 => failPast .nestedTooDeeply (s :: rest)
      | depth + 1 =>
        match readObject (r.readMember depth) r.start rest with
        | .error e => .error e
        | .ok (gathered, rest) => r.conclude gathered rest
    else refuse (.record r.name) (s :: rest)

end Record

/-! ## Whole documents -/

/-- Decodes a text that is one value of the shape and nothing else. -/
def Decoder.run {α : Type} (d : Decoder α) (text : List Symbol) : Except Error α :=
  readDocument (d depthLimit) text

end CitedAnswers.Json
