import CitedAnswers.Number.Binary

/-! # Reading numerals

Numbers as people write them: digits with at most one point among them (`pointed?`), and the same
with a sign, an exponent, or the words for what is not finite (`Binary.ofText?`).  Values are exact
until the one rounding to a binary format.
-/

namespace CitedAnswers.Number

/-! ## Digits -/

def digitValue (c : Char) : Nat :=
  c.toNat - '0'.toNat

/-- The value of a run of digits; nothing counts as zero. -/
def ofDigits (ds : List Char) : Nat :=
  ds.foldl (fun n c => n * 10 + digitValue c) 0

/-- The value of a text that is one or more digits. -/
def natural? (cs : List Char) : Option Nat :=
  if !cs.isEmpty && cs.all Char.isDigit then some (ofDigits cs) else none

/-! ## Points -/

/-- The number `coefficient / 10 ^ places`. -/
structure Pointed where
  coefficient : Nat
  places : Nat
  deriving DecidableEq, Repr

/-- Reads digits with at most one point among them, in front of them or behind them.  A point alone
is no number. -/
def pointed? (cs : List Char) : Option Pointed :=
  let whole := cs.takeWhile Char.isDigit
  match cs.dropWhile Char.isDigit with
  | [] => if whole.isEmpty then none else some ⟨ofDigits whole, 0⟩
  | c :: fraction =>
    if c = '.' ∧ fraction.all Char.isDigit ∧ ¬(whole.isEmpty ∧ fraction.isEmpty) then
      some ⟨ofDigits (whole ++ fraction), fraction.length⟩
    else none

/-! ## Signs, exponents and words -/

/-- Takes a sign off the front; whether it was a minus, and what is behind it. -/
def takeSign : List Char → Bool × List Char
  | '-' :: rest => (true, rest)
  | '+' :: rest => (false, rest)
  | cs => (false, cs)

/-- Reads an exponent: digits, with or without a sign. -/
def exponent? (cs : List Char) : Option Int :=
  let (negative, digits) := takeSign cs
  (natural? digits).map fun n => if negative then -(n : Int) else n

namespace Binary

variable {f : Format}

/-- The number nearest to an unsigned numeral, with or without an exponent. -/
def ofUnsigned? (negative : Bool) (cs : List Char) : Option (Binary f) :=
  let isMark := fun c => c = 'e' ∨ c = 'E'
  let mantissa := cs.takeWhile (!isMark ·)
  match pointed? mantissa, cs.dropWhile (!isMark ·) with
  | none, _ => none
  | some p, [] => some (ofDecimal negative p.coefficient (-(p.places : Int)))
  | some p, _ :: rest =>
    (exponent? rest).map fun e => ofDecimal negative p.coefficient (e - p.places)

/-- The number that a text stands for: a signed numeral, or one of the words for what is not finite,
in capitals or not. -/
def ofText? (cs : List Char) : Option (Binary f) :=
  let (negative, rest) := takeSign cs
  let word := String.ofList (rest.map Char.toLower)
  if word = "inf" ∨ word = "infinity" then some (.infinite negative)
  else if word = "nan" then some (.nan negative)
  else ofUnsigned? negative rest

end Binary

end CitedAnswers.Number
