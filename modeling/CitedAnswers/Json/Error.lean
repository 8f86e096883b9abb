import CitedAnswers.Json.Value
import CitedAnswers.Number.Notation
import CitedAnswers.Text.Quoted
import CitedAnswers.Text.Utf8

/-! # What can be wrong with a JSON document

A `Fault` is the cause of a refusal: a text that is no JSON, or JSON of another shape than the one
asked for.  `Fault.message` is its wording.

Reading stops at the first fault.  It is found with a part of the text still unread, so a fault is
placed by the number of octets left (`Failure`), and line and column are computed from that number
and the whole text (`Place.ofRemaining`).  Columns count octets.
-/

namespace CitedAnswers.Json

open CitedAnswers.Text

/-! ## Faults -/

/-- What stands where something else was asked for. -/
inductive Found where
  | null
  | boolean (b : Bool)
  | number (n : Numeric)
  | string (s : String)
  | sequence
  | map
  deriving DecidableEq, Repr

inductive Wanted where
  | string
  | single
  | sequence
  | record (name : String)
  /-- A record of this name, as the list of its `size` fields. -/
  | fields (name : String) (size : Nat)
  /-- A list that ends earlier. -/
  | fewerElements
  deriving DecidableEq, Repr

inductive Fault where
  | endInList
  | endInObject
  | endInString
  | endInValue
  | expectedColon
  | expectedListCommaOrEnd
  | expectedObjectCommaOrEnd
  | expectedValue
  | expectedLiteral
  | invalidEscape
  | invalidNumber
  | numberOutOfRange
  | invalidCharacter
  | controlCharacter
  | keyNotString
  | loneSurrogate
  | unexpectedEndOfEscape
  | trailingComma
  | trailingCharacters
  | nestedTooDeeply
  | wrongType (found : Found) (wanted : Wanted)
  | wrongLength (length : Nat) (wanted : Wanted)
  | missingField (name : String)
  | duplicateField (name : String)
  deriving DecidableEq, Repr

/-! ## Wording -/

def Found.ofNumber : Numeric → String
  | .whole n => "integer `" ++ toString n ++ "`"
  | .double x => "floating point `" ++ (x.scientific Number.Binary.doubleLayout).getD "" ++ "`"
  | .single x => "floating point `" ++ (x.scientific Number.Binary.singleLayout).getD "" ++ "`"

def Found.message : Found → String
  | .null => "null"
  | .boolean b => "boolean `" ++ (if b then "true" else "false") ++ "`"
  | .number n => Found.ofNumber n
  | .string s => "string " ++ quoted s
  | .sequence => "sequence"
  | .map => "map"

def Wanted.message : Wanted → String
  | .string => "a string"
  | .single => "f32"
  | .sequence => "a sequence"
  | .record name => "struct " ++ name
  | .fields name size =>
    "struct " ++ name ++ " with " ++ toString size ++ (if size = 1 then " element" else " elements")
  | .fewerElements => "fewer elements in array"

def Fault.message : Fault → String
  | .endInList => "EOF while parsing a list"
  | .endInObject => "EOF while parsing an object"
  | .endInString => "EOF while parsing a string"
  | .endInValue => "EOF while parsing a value"
  | .expectedColon => "expected `:`"
  | .expectedListCommaOrEnd => "expected `,` or `]`"
  | .expectedObjectCommaOrEnd => "expected `,` or `\x7d`"
  | .expectedValue => "expected value"
  | .expectedLiteral => "expected ident"
  | .invalidEscape => "invalid escape"
  | .invalidNumber => "invalid number"
  | .numberOutOfRange => "number out of range"
  | .invalidCharacter => "invalid unicode code point"
  | .controlCharacter => "control character (\\u0000-\\u001F) found while parsing a string"
  | .keyNotString => "key must be a string"
  | .loneSurrogate => "lone leading surrogate in hex escape"
  | .unexpectedEndOfEscape => "unexpected end of hex escape"
  | .trailingComma => "trailing comma"
  | .trailingCharacters => "trailing characters"
  | .nestedTooDeeply => "recursion limit exceeded"
  | .wrongType found wanted =>
    "invalid type: " ++ found.message ++ ", expected " ++ wanted.message
  | .wrongLength length wanted =>
    "invalid length " ++ toString length ++ ", expected " ++ wanted.message
  | .missingField name => "missing field `" ++ name ++ "`"
  | .duplicateField name => "duplicate field `" ++ name ++ "`"

/-! ## Places -/

/-- A fault and the number of octets that were left when it was found. -/
structure Failure where
  fault : Fault
  remaining : Nat
  deriving DecidableEq, Repr

/-- A line and a column, counted from one; a column counts the octets up to the place. -/
structure Place where
  line : Nat
  column : Nat
  deriving DecidableEq, Repr

/-- Walks over `count` octets of a text and keeps track of the line. -/
def Place.advance (count : Nat) (here : Place) : List Symbol → Place
  | [] => here
  | s :: rest =>
    if count = 0 then here
    else if s = .char '\n' then Place.advance (count - 1) ⟨here.line + 1, 0⟩ rest
    else if count < s.width then ⟨here.line, here.column + count⟩
    else Place.advance (count - s.width) ⟨here.line, here.column + s.width⟩ rest

/-- The place in a text with this many octets behind it. -/
def Place.ofRemaining (text : List Symbol) (remaining : Nat) : Place :=
  Place.advance (width text - remaining) ⟨1, 0⟩ text

/-- A refused document: the fault, and its place unless the document was no text. -/
structure Error where
  fault : Fault
  place : Option Place
  deriving DecidableEq, Repr

def Error.message (e : Error) : String :=
  match e.place with
  | none => e.fault.message
  | some p =>
    e.fault.message ++ " at line " ++ toString p.line ++ " column " ++ toString p.column

def Failure.within (text : List Symbol) (f : Failure) : Error :=
  ⟨f.fault, some (Place.ofRemaining text f.remaining)⟩

end CitedAnswers.Json
