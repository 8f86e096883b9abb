import CitedAnswers.Json.Error

/-! # Lexemes of JSON

White space, literals, strings and numbers.  A reader takes what is left of a text and gives what it
read together with what is left after it, or a failure.

Strings come in two readings: `readString` gives the text of a string that matters, `skipString`
passes over one that does not and therefore minds neither surrogates nor ill-formed octets.  Numbers
are first cut out of the text (`readNumeral`) and then valued (`Numeral.value`).
-/

namespace CitedAnswers.Json

open CitedAnswers.Text
open CitedAnswers.Number

/-- What a reader gives: a result and what is left of the text. -/
abbrev Outcome (α : Type) := Except Failure (α × List Symbol)

/-- Fails at the place where `rest` begins. -/
def failAt {α : Type} (fault : Fault) (rest : List Symbol) : Except Failure α :=
  .error ⟨fault, width rest⟩

/-- Fails one octet behind the place where `rest` begins, or at the end of the text. -/
def failPast {α : Type} (fault : Fault) (rest : List Symbol) : Except Failure α :=
  .error ⟨fault, width rest - 1⟩

/-! ## White space and literals -/

/-- Whether a symbol is white space between lexemes. -/
def isSpace : Symbol → Bool
  | .char c => c == ' ' || c == '\n' || c == '\t' || c == '\r'
  | .broken _ => false

def skipSpace (text : List Symbol) : List Symbol :=
  text.dropWhile isSpace

/-- Reads the rest of a literal whose first character has been read. -/
def readLiteral : (tail : List Char) → List Symbol → Except Failure (List Symbol)
  | [], text => .ok text
  | _ :: _, [] => failAt .endInValue []
  | c :: tail, s :: rest =>
    if s = .char c then readLiteral tail rest else failPast .expectedLiteral (s :: rest)

/-! ## Strings -/

def hexDigit? (c : Char) : Option Nat :=
  if '0' ≤ c ∧ c ≤ '9' then some (c.toNat - '0'.toNat)
  else if 'a' ≤ c ∧ c ≤ 'f' then some (c.toNat - 'a'.toNat + 10)
  else if 'A' ≤ c ∧ c ≤ 'F' then some (c.toNat - 'A'.toNat + 10)
  else none

/-- The character that a one-letter escape stands for. -/
def shortEscape? : Char → Option Char
  | '"' => some '"'
  | '\\' => some '\\'
  | '/' => some '/'
  | 'b' => some '\x08'
  | 'f' => some '\x0c'
  | 'n' => some '\n'
  | 'r' => some '\r'
  | 't' => some '\t'
  | _ => none

/-- A symbol that may not stand in a string as it is. -/
def isControl : Symbol → Bool
  | .char c => c.toNat < 0x20
  | .broken _ => false

/-- Where a reader stands inside a string. -/
inductive InString where
  | plain
  | escape
  /-- After `\u` and some hexadecimal digits: how many are owed, their value so far, and the leading
  surrogate that an escape before this one gave. -/
  | hex (owed : Nat) (value : Nat) (leading : Option Nat)
  /-- After the escape of a leading surrogate. -/
  | pair (leading : Nat)
  /-- After the escape of a leading surrogate and a backslash. -/
  | pairEscape (leading : Nat)
  deriving DecidableEq, Repr

/-- Fails inside four hexadecimal digits: the four octets are taken as they are, or the text ends
within them. -/
def failInHex {α : Type} (owed : Nat) (rest : List Symbol) : Except Failure α :=
  if width rest < owed then failAt .endInString []
  else .error ⟨.invalidEscape, width rest - owed⟩

/-- What four hexadecimal digits mean: a character, or the leading half of one. -/
inductive Escaped where
  | char (c : Char)
  | leading (value : Nat)
  | lone
  deriving DecidableEq, Repr

/-- The meaning of the escape with this value, after a leading surrogate or on its own. -/
def escaped (value : Nat) : (leading : Option Nat) → Escaped
  | none =>
    if 0xDC00 ≤ value ∧ value ≤ 0xDFFF then .lone
    else if 0xD800 ≤ value ∧ value ≤ 0xDBFF then .leading value
    else .char (Char.ofNat value)
  | some high =>
    if 0xDC00 ≤ value ∧ value ≤ 0xDFFF then
      .char (Char.ofNat ((high - 0xD800) * 0x400 + (value - 0xDC00) + 0x10000))
    else .lone

/-- Reads a string up to its closing quote.  `seen` holds the symbols read so far, the last one
first. -/
def stringFrom : InString → (seen : List Symbol) → List Symbol → Outcome (List Symbol)
  | .hex owed _ _, _, [] => failInHex owed []
  | _, _, [] => failAt .endInString []
  | .plain, seen, s :: rest =>
    if s = .char '"' then .ok (seen.reverse, rest)
    else if s = .char '\\' then stringFrom .escape seen rest
    else if isControl s then failPast .controlCharacter (s :: rest)
    else stringFrom .plain (s :: seen) rest
  | .escape, seen, s :: rest =>
    match s with
    | .char 'u' => stringFrom (.hex 4 0 none) seen rest
    | .char c =>
      match shortEscape? c with
      | some d => stringFrom .plain (.char d :: seen) rest
      | none => failPast .invalidEscape (s :: rest)
    | .broken _ => failPast .invalidEscape (s :: rest)
  | .hex owed value leading, seen, s :: rest =>
    match s with
    | .char c =>
      match hexDigit? c with
      | none => failInHex owed (s :: rest)
      | some d =>
        if owed = 1 then
          match escaped (value * 16 + d) leading with
          | .char c => stringFrom .plain (.char c :: seen) rest
          | .leading high => stringFrom (.pair high) seen rest
          | .lone => failAt .loneSurrogate rest
        else stringFrom (.hex (owed - 1) (value * 16 + d) leading) seen rest
    | .broken _ => failInHex owed (s :: rest)
  | .pair high, seen, s :: rest =>
    if s = .char '\\' then stringFrom (.pairEscape high) seen rest
    else failPast .unexpectedEndOfEscape (s :: rest)
  | .pairEscape high, seen, s :: rest =>
    if s = .char 'u' then stringFrom (.hex 4 0 (some high)) seen rest
    else failPast .unexpectedEndOfEscape (s :: rest)

/-- What is left of symbols from the first ill-formed octets on. -/
def fromBroken : List Symbol → List Symbol
  | [] => []
  | .char _ :: rest => fromBroken rest
  | .broken w :: rest => .broken w :: rest

/-- Reads a string whose opening quote has been read.  Its octets must be text, which is looked at
when the string has ended.  The fault is then placed as many octets before the end of the string as
the string has from its first ill-formed octets on, where an escape counts as the character it stands
for. -/
def readString (text : List Symbol) : Outcome String :=
  match stringFrom .plain [] text with
  | .error e => .error e
  | .ok (symbols, rest) =>
    match sound? symbols with
    | some cs => .ok (String.ofList cs, rest)
    | none => .error ⟨.invalidCharacter, width rest + width (fromBroken symbols)⟩

/-- Where a reader stands inside a string that does not matter. -/
inductive InSkipped where
  | plain
  | escape
  | hex (owed : Nat)
  deriving DecidableEq, Repr

/-- Passes over a string up to its closing quote. -/
def skipFrom : InSkipped → List Symbol → Except Failure (List Symbol)
  | .hex owed, [] => failInHex owed []
  | _, [] => failAt .endInString []
  | .plain, s :: rest =>
    if s = .char '"' then .ok rest
    else if s = .char '\\' then skipFrom .escape rest
    else if isControl s then failAt .controlCharacter (s :: rest)
    else skipFrom .plain rest
  | .escape, s :: rest =>
    match s with
    | .char 'u' => skipFrom (.hex 4) rest
    | .char c =>
      match shortEscape? c with
      | some _ => skipFrom .plain rest
      | none => failPast .invalidEscape (s :: rest)
    | .broken _ => failPast .invalidEscape (s :: rest)
  | .hex owed, s :: rest =>
    match s with
    | .char c =>
      match hexDigit? c with
      | none => failInHex owed (s :: rest)
      | some _ => if owed = 1 then skipFrom .plain rest else skipFrom (.hex (owed - 1)) rest
    | .broken _ => failInHex owed (s :: rest)

/-- Passes over a string whose opening quote has been read. -/
def skipString (text : List Symbol) : Except Failure (List Symbol) :=
  skipFrom .plain text

/-! ## Numerals -/

def digit? : Symbol → Option Nat
  | .char c => if '0' ≤ c ∧ c ≤ '9' then some (c.toNat - '0'.toNat) else none
  | .broken _ => none

def takeDigits : List Symbol → List Nat × List Symbol
  | [] => ([], [])
  | s :: rest =>
    match digit? s with
    | some d => let (ds, left) := takeDigits rest; (d :: ds, left)
    | none => ([], s :: rest)

/-- A number as it is written: digits before the point, digits behind it, and the sign and digits of
an exponent. -/
structure Numeral where
  negative : Bool
  integer : List Nat
  fraction : Option (List Nat)
  exponent : Option (Bool × List Nat)
  deriving DecidableEq, Repr

/-- Reads an exponent behind its `e`.  `atEnd` is the fault of a text that stops here. -/
def readExponent (atEnd : Fault) (text : List Symbol) : Outcome (Bool × List Nat) :=
  let (negative, text) := match text with
    | .char '+' :: rest => (false, rest)
    | .char '-' :: rest => (true, rest)
    | _ => (false, text)
  match text with
  | [] => failAt atEnd []
  | s :: rest =>
    match digit? s with
    | none => failPast .invalidNumber (s :: rest)
    | some d => let (ds, left) := takeDigits rest; .ok ((negative, d :: ds), left)

def isExponentMark (s : Symbol) : Bool :=
  s == .char 'e' || s == .char 'E'

/-- Reads what may follow the digits before the point. -/
def readTail (atEnd : Fault) (negative : Bool) (integer : List Nat) (text : List Symbol) :
    Outcome Numeral :=
  match text with
  | .char '.' :: rest =>
    match takeDigits rest with
    | ([], []) => failAt atEnd []
    | ([], left) => failPast .invalidNumber left
    | (ds, s :: left) =>
      if isExponentMark s then
        match readExponent atEnd left with
        | .ok (e, left) => .ok (⟨negative, integer, some ds, some e⟩, left)
        | .error e => .error e
      else .ok (⟨negative, integer, some ds, none⟩, s :: left)
    | (ds, []) => .ok (⟨negative, integer, some ds, none⟩, [])
  | s :: rest =>
    if isExponentMark s then
      match readExponent atEnd rest with
      | .ok (e, left) => .ok (⟨negative, integer, none, some e⟩, left)
      | .error e => .error e
    else .ok (⟨negative, integer, none, none⟩, s :: rest)
  | [] => .ok (⟨negative, integer, none, none⟩, [])

/-- Reads a numeral behind its sign.  No digit may follow a leading zero. -/
def readNumeral (atEnd : Fault) (negative : Bool) (text : List Symbol) : Outcome Numeral :=
  match takeDigits text with
  | ([], []) => failAt atEnd []
  | ([], left) => failPast .invalidNumber left
  | (0 :: _ :: _, _) => failPast .invalidNumber (text.drop 1)
  | (ds, left) => readTail atEnd negative ds left

/-! ## Values of numerals -/

/-- A significand of at most 64 bits and the power of ten it is to be scaled by. -/
structure Scaled where
  significand : Nat
  exponent : Int
  deriving DecidableEq, Repr

/-- Takes digits into a significand as long as it keeps to 64 bits.  Each digit that is taken
changes the exponent by `step`; the digits that are left over are given back. -/
def Scaled.absorb (step : Int) (x : Scaled) : List Nat → Scaled × List Nat
  | [] => (x, [])
  | d :: ds =>
    let grown := x.significand * 10 + d
    if grown ≤ Binary.greatestWord then Scaled.absorb step ⟨grown, x.exponent + step⟩ ds
    else (x, d :: ds)

def valueOf (ds : List Nat) : Nat :=
  ds.foldl (fun n d => n * 10 + d) 0

/-- The greatest exponent that is read digit by digit, `2 ^ 31 - 1`. -/
def exponentBound : Nat := 2147483647

/-- The magnitude of the least signed 64-bit integer, `2 ^ 63`. -/
def leastMagnitude : Nat := 9223372036854775808

/-- What is made of a double by a positive one, where both are finite; any other double stays. -/
def byFinite (combine : Bool → Nat → Nat → Binary64) : Binary64 → Binary64 → Binary64
  | .finite s m, .finite _ n => combine s m n
  | x, _ => x

/-- Scales a double by a power of ten, at most `10 ^ 308` at a time.  Each step rounds. -/
def scale (x : Binary64) (exponent : Int) : (fuel : Nat) → Option Binary64
  | 0 => some x
  | fuel + 1 =>
    if exponent.natAbs ≤ 308 then
      let y := if 0 ≤ exponent then multiplied x exponent.natAbs else divided x exponent.natAbs
      if y.isInfinite then none else some y
    else if x = .finite false 0 then some x
    else if 0 ≤ exponent then none
    else scale (divided x 308) (exponent + 308) fuel
where
  /-- The product with the double nearest to a power of ten. -/
  multiplied (x : Binary64) (k : Nat) : Binary64 :=
    byFinite (fun s m n => Binary.ofQuotient s (m * n) (Nat.pow 2 (2 * binary64.scale))) x
      (Binary.ofNat (Nat.pow 10 k))
  /-- The quotient by the double nearest to a power of ten. -/
  divided (x : Binary64) (k : Nat) : Binary64 :=
    byFinite (fun s m n => Binary.ofQuotient s m n) x (Binary.ofNat (Nat.pow 10 k))

/-- The value of a numeral that is not a whole number of the 64-bit ranges. -/
def Scaled.toDouble (negative : Bool) (x : Scaled) : Option Binary64 :=
  (scale (Binary.ofNat x.significand) x.exponent 4).map fun y => if negative then y.neg else y

/-- How many octets of an exponent are left unread when it turns out to be out of range: reading
stops behind the digit that takes it past the bound. -/
def unreadExponent (n : Nat) : List Nat → Option Nat
  | [] => none
  | d :: ds => if exponentBound < n * 10 + d then some ds.length else unreadExponent (n * 10 + d) ds

/-- A number that is out of range, and the octets of it that were not read. -/
structure OutOfRange where
  unread : Nat

/-- The value of a numeral.

Whole numbers keep to the 64-bit ranges, and a negative zero is a double.  All else is a double that
is computed in steps: at most 64 bits of the digits are taken, digits past them before the point
count as powers of ten, and the result is scaled by the power of ten. -/
def Numeral.value (n : Numeral) : Except OutOfRange Numeric :=
  let (whole, beyond) := Scaled.absorb 0 ⟨0, 0⟩ n.integer
  match n.fraction, n.exponent, beyond with
  | none, none, [] =>
    if !n.negative then .ok (.whole whole.significand)
    else if whole.significand = 0 ∨ leastMagnitude < whole.significand then
      .ok (.double (Binary.ofQuotient true whole.significand 1))
    else .ok (.whole (-whole.significand))
  | _, _, _ =>
    let start : Scaled := ⟨whole.significand, beyond.length⟩
    let (digits, _) := Scaled.absorb (-1) start (n.fraction.getD [])
    match n.exponent with
    | none => finish digits
    | some (negative, ds) =>
      match unreadExponent 0 ds with
      | some unread =>
        if digits.significand = 0 ∨ negative then .ok (.double (.finite n.negative 0))
        else .error ⟨unread⟩
      | none =>
        let e : Int := valueOf ds
        finish ⟨digits.significand, if negative then digits.exponent - e else digits.exponent + e⟩
where
  /-- The double for a significand and a power of ten. -/
  finish (x : Scaled) : Except OutOfRange Numeric :=
    match x.toDouble n.negative with
    | some y => .ok (.double y)
    | none => .error ⟨0⟩

/-- Reads a number behind its sign. -/
def readNumber (negative : Bool) (text : List Symbol) : Outcome Numeric :=
  match readNumeral .endInValue negative text with
  | .error e => .error e
  | .ok (numeral, rest) =>
    match numeral.value with
    | .ok n => .ok (n, rest)
    | .error e => .error ⟨.numberOutOfRange, width rest + e.unread⟩

/-- Passes over a number behind its sign; its value does not matter. -/
def skipNumber (text : List Symbol) : Except Failure (List Symbol) :=
  match readNumeral .invalidNumber false text with
  | .error e => .error e
  | .ok (_, rest) => .ok rest

end CitedAnswers.Json
