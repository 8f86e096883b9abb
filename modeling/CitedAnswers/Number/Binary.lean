/-! # Binary floating-point numbers in exact arithmetic

A binary interchange format has a least positive number, its *quantum*, and every finite number of
the format is a whole multiple of it.  A finite number is therefore kept as a sign and a natural
count of quanta: comparison is comparison of naturals, and rounding a quotient of naturals to the
format is one division (`Format.nearest`).

The two formats in use are `binary64` and `binary32`.  Rounding goes to the nearest number, a tie
to the one with an even last bit, and past the largest number to infinity (`Format.ofQuotient`).
-/

namespace CitedAnswers.Number

/-! ## Formats -/

/-- A binary interchange format.  One is `2 ^ scale` quanta, a number has at most `precision`
significant bits, and every finite magnitude is below `2 ^ span` quanta. -/
structure Format where
  precision : Nat
  scale : Nat
  span : Nat
  deriving DecidableEq, Repr

/-- Double precision: 53 significant bits, quantum `2 ^ -1074`, magnitudes below `2 ^ 1024`. -/
def binary64 : Format := ⟨53, 1074, 2098⟩

/-- Single precision: 24 significant bits, quantum `2 ^ -149`, magnitudes below `2 ^ 128`. -/
def binary32 : Format := ⟨24, 149, 277⟩

/-! ## Rounding quotients of naturals -/

/-- The natural nearest to `num / den`; a quotient half-way between two goes to the even one. -/
def roundToEven (num den : Nat) : Nat :=
  let floor := num / den
  let twice := 2 * (num % den)
  if twice < den then floor
  else if den < twice then floor + 1
  else floor + floor % 2

/-- The natural nearest to `num / den`; a quotient half-way between two goes up. -/
def roundHalfUp (num den : Nat) : Nat :=
  (2 * num + den) / (2 * den)

namespace Format

/-- How many low bits of a magnitude with `n` whole quanta do not fit into the precision. -/
def excess (f : Format) (n : Nat) : Nat :=
  n.log2 + 1 - f.precision

/-- The count of quanta nearest to `num / den` units, before the range is looked at. -/
def nearest (f : Format) (num den : Nat) : Nat :=
  let quanta := num * Nat.pow 2 f.scale
  let step := Nat.pow 2 (f.excess (quanta / den))
  roundToEven quanta (den * step) * step

end Format

/-! ## Numbers -/

/-- A number of the format: a signed count of quanta, a signed infinity, or not a number. -/
inductive Binary (f : Format) where
  | finite (negative : Bool) (quanta : Nat)
  | infinite (negative : Bool)
  | nan (negative : Bool)
  deriving DecidableEq, Repr

abbrev Binary64 := Binary binary64

abbrev Binary32 := Binary binary32

namespace Binary

variable {f : Format}

/-- The number with this sign and count of quanta, or infinity when the count is out of range. -/
def ofQuanta (negative : Bool) (quanta : Nat) : Binary f :=
  if quanta < Nat.pow 2 f.span then .finite negative quanta else .infinite negative

def ofQuotient (negative : Bool) (num den : Nat) : Binary f :=
  ofQuanta negative (f.nearest num den)

def ofNat (n : Nat) : Binary f :=
  ofQuotient false n 1

/-- The number nearest to an integer; zero is positive. -/
def ofInt (n : Int) : Binary f :=
  ofQuotient (decide (n < 0)) n.natAbs 1

/-- The number nearest to `± coefficient * 10 ^ exponent`.

A power of ten is at least the same power of eight, so an exponent that the range of the format
rules out is recognised before any power is computed. -/
def ofDecimal (negative : Bool) (coefficient : Nat) (exponent : Int) : Binary f :=
  match exponent with
  | .ofNat e =>
    if coefficient = 0 then .finite negative 0
    else if f.span < 3 * e then .infinite negative
    else ofQuotient negative (coefficient * Nat.pow 10 e) 1
  | .negSucc e =>
    if coefficient.log2 + f.scale + 2 < 3 * (e + 1) then .finite negative 0
    else ofQuotient negative coefficient (Nat.pow 10 (e + 1))

def neg : Binary f → Binary f
  | .finite s n => .finite (!s) n
  | .infinite s => .infinite (!s)
  | .nan s => .nan (!s)

/-- Whether the number is one of the two infinities. -/
def isInfinite : Binary f → Bool
  | .infinite _ => true
  | _ => false

/-- The number of another format that is nearest to this one. -/
def convert {g : Format} : Binary f → Binary g
  | .finite s n => ofQuotient s n (Nat.pow 2 f.scale)
  | .infinite s => .infinite s
  | .nan s => .nan s

/-- The bits of the number in the interchange encoding, the sign first.

Counting quanta makes the exponent field and the fraction one sum: each doubling past the precision
adds one to the exponent field and halves the count that is left. -/
def toBits : Binary f → Nat
  | .finite s n => sign s + f.excess n * Nat.pow 2 (f.precision - 1) + n / Nat.pow 2 (f.excess n)
  | .infinite s => sign s + special
  | .nan s => sign s + special + Nat.pow 2 (f.precision - 2)
where
  /-- The exponent field of infinities and of what is not a number. -/
  special : Nat := (f.span - f.precision + 2) * Nat.pow 2 (f.precision - 1)
  /-- The weight of the sign bit. -/
  sign (s : Bool) : Nat := if s then (f.span - f.precision + 3) * Nat.pow 2 (f.precision - 1) else 0

/-! ## Whole parts -/

/-- The greatest unsigned 64-bit word, `2 ^ 64 - 1`. -/
def greatestWord : Nat := 18446744073709551615

/-- The number cut off to a natural: zero for what is negative or not a number, and never more
than the greatest word. -/
def toWord : Binary f → Nat
  | .finite false n => min (n / Nat.pow 2 f.scale) greatestWord
  | .finite true _ => 0
  | .infinite s => if s then 0 else greatestWord
  | .nan _ => 0

/-- The nearest whole number, a half going away from zero, within the same limits as `toWord`. -/
def roundToWord : Binary f → Nat
  | .finite false n => min (roundHalfUp n (Nat.pow 2 f.scale)) greatestWord
  | x => x.toWord

end Binary

end CitedAnswers.Number
