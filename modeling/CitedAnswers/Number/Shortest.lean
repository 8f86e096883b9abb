import CitedAnswers.Number.Binary

/-! # Shortest decimals

The shortest decimal of a finite binary number is the decimal with the fewest digits among those
that lie in the number's rounding interval, and of several with that many digits the one nearest to
the number (`shortest`).  Which of two equally near decimals is taken is left to the caller.

The interval reaches half-way to the two neighbours.  Its ends belong to it exactly when the last
bit of the number is even, because a tie rounds to the even neighbour.
-/

namespace CitedAnswers.Number

/-- A positive decimal, `coefficient * 10 ^ exponent`. -/
structure Decimal where
  coefficient : Nat
  exponent : Int
  deriving DecidableEq, Repr

namespace Decimal

def quotient (d : Decimal) : Nat × Nat :=
  match d.exponent with
  | .ofNat e => (d.coefficient * Nat.pow 10 e, 1)
  | .negSucc e => (d.coefficient, Nat.pow 10 (e + 1))

/-- Drops trailing zeros of the coefficient, at most `fuel` of them. -/
def stripZeros : Nat → Decimal → Decimal
  | 0, d => d
  | fuel + 1, d =>
    if d.coefficient ≠ 0 ∧ d.coefficient % 10 = 0 then
      stripZeros fuel ⟨d.coefficient / 10, d.exponent + 1⟩
    else d

end Decimal

/-- Which of two equally near decimals is written. -/
inductive Tie where
  /-- The one with the even last digit. -/
  | toEven
  /-- The larger one. -/
  | up
  deriving DecidableEq, Repr

/-! ## The rounding interval -/

/-- The decimals that read back as one number: those between `low` and `high`, in quarters of a
quantum, the ends included when `closed` holds. -/
structure Interval where
  low : Nat
  high : Nat
  closed : Bool
  deriving DecidableEq, Repr

namespace Format

/-- The rounding interval of a positive count of quanta.  Below a power of two the neighbours lie
half as far apart as above it. -/
def interval (f : Format) (n : Nat) : Interval :=
  let step := Nat.pow 2 (f.excess n)
  let below := if 0 < f.excess n ∧ n = Nat.pow 2 n.log2 then step / 2 else step
  ⟨4 * n - 2 * below, 4 * n + 2 * step, n / step % 2 = 0⟩

/-- Whether a decimal lies in an interval of this format. -/
def holds (f : Format) (i : Interval) (d : Decimal) : Bool :=
  let (num, den) := d.quotient
  let point := num * (4 * Nat.pow 2 f.scale)
  if i.closed then i.low * den ≤ point && point ≤ i.high * den
  else i.low * den < point && point < i.high * den

end Format

/-! ## Search -/

/-- The least `k` at least `start` with `den ≤ num * 10 ^ k`, looked for in `fuel` steps. -/
def leadingPlace (num den : Nat) : (fuel start : Nat) → Nat
  | 0, k => k
  | fuel + 1, k => if den ≤ num * Nat.pow 10 k then k else leadingPlace num den fuel (k + 1)

/-- The power of ten of the first significant digit of `num / den`. -/
def leadingExponent (num den : Nat) : Int :=
  if den ≤ num then ((Nat.toDigits 10 (num / den)).length : Int) - 1
  else -(leadingPlace num den (den.log2 + 1) 1 : Int)

/-- The largest multiple of `10 ^ exponent` that is at most `num / den`. -/
def gridBelow (num den : Nat) (exponent : Int) : Decimal :=
  match exponent with
  | .ofNat e => ⟨num / (den * Nat.pow 10 e), exponent⟩
  | .negSucc e => ⟨num * Nat.pow 10 (e + 1) / den, exponent⟩

/-- The nearer of two neighbouring decimals to `num / den`. -/
def nearer (tie : Tie) (num den : Nat) (below above : Decimal) : Decimal :=
  let (bn, bd) := below.quotient
  let (an, ad) := above.quotient
  let down := (num * bd - bn * den) * ad
  let up := (an * den - num * ad) * bd
  if down < up then below
  else if up < down then above
  else match tie with
    | .up => above
    | .toEven => if below.coefficient % 2 = 0 then below else above

/-- The best decimal on the grid of `10 ^ exponent`, if one of the two grid points next to the
number reads back as it. -/
def onGrid (f : Format) (tie : Tie) (n : Nat) (exponent : Int) : Option Decimal :=
  let den := Nat.pow 2 f.scale
  let below := gridBelow n den exponent
  let above : Decimal := ⟨below.coefficient + 1, exponent⟩
  let i := f.interval n
  match f.holds i below, f.holds i above with
  | true, true => some (nearer tie n den below above)
  | true, false => some below
  | false, true => some above
  | false, false => none

/-- Tries finer and finer grids, starting at `exponent`. -/
def refine (f : Format) (tie : Tie) (n : Nat) : (fuel : Nat) → (exponent : Int) → Decimal
  | 0, exponent => gridBelow n (Nat.pow 2 f.scale) exponent
  | fuel + 1, exponent =>
    match onGrid f tie n exponent with
    | some d => d
    | none => refine f tie n fuel (exponent - 1)

/-- The shortest decimal of a positive count of quanta, without trailing zeros.  Seventeen digits
are enough for the widest format in use. -/
def shortest (f : Format) (tie : Tie) (n : Nat) : Decimal :=
  (refine f tie n 20 (leadingExponent n (Nat.pow 2 f.scale))).stripZeros 20

end CitedAnswers.Number
