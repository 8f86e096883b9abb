import CitedAnswers.Number.Shortest

/-! # Number notation

Two ways to write a binary number with its shortest decimal.

* `Binary.positional` never uses an exponent: it is the notation of counters and of settings.
* `Binary.scientific` is the notation of JSON documents: it always shows a decimal point or an
  exponent, and turns to an exponent outside a range of magnitudes that depends on the format.

Both read back as the number they were written for; they differ in layout and in the choice between
two equally near decimals.
-/

namespace CitedAnswers.Number

/-- The digits of a natural, most significant first. -/
def digits (n : Nat) : List Char :=
  Nat.toDigits 10 n

/-- A minus sign where there is one to write. -/
def sign (negative : Bool) (text : String) : String :=
  if negative then "-" ++ text else text

/-- Digits with the decimal point after the first `point` of them, filled up with zeros on either
side; a point outside the digits is written as leading `0.` or as trailing zeros. -/
def placePoint (ds : List Char) (point : Int) (trailer : String) : String :=
  match point with
  | .ofNat p =>
    if p = 0 then "0." ++ String.ofList ds
    else if ds.length ≤ p then
      String.ofList (ds ++ List.replicate (p - ds.length) '0') ++ trailer
    else String.ofList (ds.take p ++ '.' :: ds.drop p)
  | .negSucc p => "0." ++ String.ofList (List.replicate (p + 1) '0' ++ ds)

namespace Binary

variable {f : Format}

/-! ## Positional notation -/

/-- The number without an exponent and without a needless point, `inf` or `NaN`. -/
def positional : Binary f → String
  | .finite s n =>
    if n = 0 then sign s "0"
    else
      let d := shortest f .up n
      let ds := digits d.coefficient
      sign s (placePoint ds (ds.length + d.exponent) "")
  | .infinite s => sign s "inf"
  | .nan _ => "NaN"

/-! ## Scientific notation -/

/-- The powers of ten of the first digit for which no exponent is written. -/
structure Layout where
  least : Int
  greatest : Int

/-- Doubles are written without an exponent from `1e-5` up to below `1e16`. -/
def doubleLayout : Layout := ⟨-5, 15⟩

/-- Singles are written without an exponent from `1e-6` up to below `1e13`. -/
def singleLayout : Layout := ⟨-6, 12⟩

/-- One digit before the point, the others behind it, and a signed exponent. -/
def withExponent (ds : List Char) (exponent : Int) : String :=
  let mantissa := match ds with
    | [] => ""
    | [d] => String.ofList [d]
    | d :: rest => String.ofList (d :: '.' :: rest)
  let mark := if exponent < 0 then "e-" else "e+"
  mantissa ++ mark ++ String.ofList (digits exponent.natAbs)

/-- The number as JSON documents have it; there is no such text for what is not finite. -/
def scientific (layout : Layout) : Binary f → Option String
  | .finite s n =>
    if n = 0 then some (sign s "0.0")
    else
      let d := shortest f .toEven n
      let ds := digits d.coefficient
      let leading : Int := ds.length + d.exponent - 1
      if layout.least ≤ leading ∧ leading ≤ layout.greatest then
        some (sign s (placePoint ds (leading + 1) ".0"))
      else some (sign s (withExponent ds leading))
  | _ => none

end Binary

end CitedAnswers.Number
