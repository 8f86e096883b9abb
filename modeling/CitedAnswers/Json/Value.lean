import CitedAnswers.Number.Binary

/-! # JSON values

A number is a whole number of the 64-bit ranges or a binary floating-point number; the two are told
apart, because `1` and `1.0` are written differently.

An object is a list of members.  Objects that were read are sorted by name and have no name twice
(`insertMember`); objects that are only written keep the order they were built in.
-/

namespace CitedAnswers

open Number (Binary32 Binary64)

namespace Json

/-- A JSON number.  Whole numbers that were read lie between `-2 ^ 63` and `2 ^ 64 - 1`; single
precision occurs only in documents that are written. -/
inductive Numeric where
  | whole (n : Int)
  | double (x : Binary64)
  | single (x : Binary32)
  deriving DecidableEq, Repr

end Json

inductive Json where
  | null
  | bool (b : Bool)
  | number (n : Json.Numeric)
  | string (s : String)
  | array (items : List Json)
  | object (members : List (String × Json))
  deriving Repr

namespace Json

/-! ## Objects -/

/-- Puts a member in its place by name; a name that is there already gets the new value. -/
def insertMember (name : String) (value : Json) : List (String × Json) → List (String × Json)
  | [] => [(name, value)]
  | (n, v) :: rest =>
    if name < n then (name, value) :: (n, v) :: rest
    else if name = n then (name, value) :: rest
    else (n, v) :: insertMember name value rest

/-- The member of an object with this name; other values have no members. -/
def member? (name : String) : Json → Option Json
  | .object members => members.lookup name
  | _ => none

def text? : Json → Option String
  | .string s => some s
  | _ => none

end Json

end CitedAnswers
