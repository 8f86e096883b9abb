import CitedAnswers.Json.Value
import CitedAnswers.Number.Notation
import CitedAnswers.Number.Numeral
import CitedAnswers.Text.Lowercase
import CitedAnswers.Text.Quoted

/-! # Values of settings

A setting can be given a value of any kind, and is read as a text, a count or a real number.  Texts
can be read from all scalars.  Counts and reals can be read from each other, from truth values and
from texts (`readText`, `readCount`, `readReal`).

Lists and tables can be read as nothing, so what they hold does not matter.
-/

namespace CitedAnswers.Settings

open CitedAnswers.Number (Binary Binary32 Binary64 natural?)

/-! ## Values -/

inductive Value where
  | nil
  | bool (b : Bool)
  | int (n : Int)
  | real (x : Binary64)
  | text (s : String)
  | list
  | table (isEmpty : Bool)
  deriving DecidableEq, Repr

/-- Whether an integer is one of the signed 64-bit range, from `-2 ^ 63` to `2 ^ 63 - 1`. -/
def isInt64 (n : Int) : Bool :=
  decide (-9223372036854775808 ≤ n) && decide (n ≤ 9223372036854775807)

/-- The value that a JSON number stands for.  Whole numbers past the signed 64-bit range are
reals. -/
def Value.ofNumber : Json.Numeric → Value
  | .whole n => if isInt64 n then .int n else .real (Binary.ofInt n)
  | .double x => .real x
  | .single x => .real x.convert

def Value.ofJson : Json → Value
  | .null => .nil
  | .bool b => .bool b
  | .number n => .ofNumber n
  | .string s => .text s
  | .array _ => .list
  | .object members => .table members.isEmpty

/-- The integer that a text is, with or without a sign. -/
def int? (s : String) : Option Int :=
  let (negative, digits) := Number.takeSign s.toList
  (natural? digits).bind fun n =>
    let value : Int := if negative then -n else n
    if isInt64 value then some value else none

/-- The value that a text stands for where all values are texts: a truth value, an integer or a real
number if it is one, else the text itself. -/
def Value.ofText (s : String) : Value :=
  let word := String.ofList (Text.lower s.toList)
  if word = "true" then .bool true
  else if word = "false" then .bool false
  else
    match int? s with
    | some n => .int n
    | none =>
      match Binary.ofText? s.toList with
      | some x => .real x
      | none => .text s

/-! ## Refusals -/

inductive Wanted where
  | text
  | count
  /-- A count, where an integer was given. -/
  | unsigned
  | real
  deriving DecidableEq, Repr

def Value.message : Value → String
  | nil => "unit value"
  | bool b => "boolean \x60" ++ (if b then "true" else "false") ++ "\x60"
  | int n => "integer 64 bit \x60" ++ toString n ++ "\x60"
  | real x => "floating point \x60" ++ x.positional ++ "\x60"
  | text s => "string " ++ Text.quoted s
  | list => "sequence"
  | table _ => "map"

def Wanted.message : Wanted → String
  | text => "a string"
  | count => "an integer"
  | unsigned => "an unsigned 64 bit or less integer"
  | real => "a floating point"

/-! ## Readings -/

/-- A reading of a value: what it stands for, or what it should have been. -/
abbrev Reading (α : Type) := Value → Except Wanted α

/-- A truth value that is given by a word. -/
def flag? (s : String) : Option Bool :=
  let word := String.ofList (Text.lower s.toList)
  if ["true", "on", "yes"].contains word then some true
  else if ["false", "off", "no"].contains word then some false
  else none

/-- The natural below `2 ^ 64` that a text is, with or without a plus sign. -/
def count? (s : String) : Option Nat :=
  let digits := match s.toList with
    | '+' :: rest => rest
    | cs => cs
  (natural? digits).filter (· ≤ Binary.greatestWord)

/-- A value read as text.  Numbers are written without an exponent. -/
def readText : Reading String
  | .text s => .ok s
  | .bool b => .ok (if b then "true" else "false")
  | .int n => .ok (toString n)
  | .real x => .ok x.positional
  | _ => .error .text

def readText? : Reading (Option String)
  | .nil => .ok none
  | v => (readText v).map some

/-- A value read as a count of the unsigned 64-bit range.  Reals are rounded, and what lies outside
the range counts as its nearest end. -/
def readCount : Reading Nat
  | .int n => if 0 ≤ n then .ok n.toNat else .error .unsigned
  | .real x => .ok x.roundToWord
  | .bool b => .ok b.toNat
  | .text s =>
    match flag? s with
    | some b => .ok b.toNat
    | none =>
      match count? s with
      | some n => .ok n
      | none => .error .count
  | _ => .error .count

def readReal : Reading Binary64
  | .real x => .ok x
  | .int n => .ok (Binary.ofInt n)
  | .bool b => .ok (Binary.ofNat b.toNat)
  | .text s =>
    match flag? s with
    | some b => .ok (Binary.ofNat b.toNat)
    | none =>
      match Binary.ofText? s.toList with
      | some x => .ok x
      | none => .error .real
  | _ => .error .real

end CitedAnswers.Settings
