/-! # Text from octets

Octets that arrive from outside need not be text.  `decode` reads them as UTF-8 into a list of
symbols: a symbol is a character, or a run of octets that no character starts with, as long as it
could have been the beginning of one.  Nothing is lost in counting: each symbol knows how many
octets it took (`Symbol.width`).

`lossy` turns every ill-formed run into one replacement character.
-/

namespace CitedAnswers.Text

/-- A character, or a run of `width` octets that are no part of one. -/
inductive Symbol where
  | char (c : Char)
  | broken (width : Nat)
  deriving DecidableEq, Repr

/-- How many octets the symbol took. -/
def Symbol.width : Symbol → Nat
  | .char c => c.utf8Size
  | .broken w => w

def width : List Symbol → Nat
  | [] => 0
  | s :: rest => s.width + width rest

def symbols (cs : List Char) : List Symbol :=
  cs.map .char

/-- The text of symbols, if all of them are characters. -/
def sound? : List Symbol → Option (List Char)
  | [] => some []
  | .char c :: rest => (sound? rest).map (c :: ·)
  | .broken _ :: _ => none

/-- The text of symbols, with a replacement character for every ill-formed run. -/
def replaceBroken (ss : List Symbol) : List Char :=
  ss.map fun
    | .char c => c
    | .broken _ => Char.ofNat 0xFFFD

/-! ## Decoding -/

/-- What a leading octet announces: how many octets follow it, the bounds on the first of them, and
its own share of the scalar value.  The bounds rule out overlong forms, surrogates and values past
the last character. -/
def lead? (b : Nat) : Option (Nat × Nat × Nat × Nat) :=
  if 0xC2 ≤ b && b ≤ 0xDF then some (1, 0x80, 0xBF, b - 0xC0)
  else if b == 0xE0 then some (2, 0xA0, 0xBF, 0)
  else if b == 0xED then some (2, 0x80, 0x9F, 0xD)
  else if 0xE1 ≤ b && b ≤ 0xEF then some (2, 0x80, 0xBF, b - 0xE0)
  else if b == 0xF0 then some (3, 0x90, 0xBF, 0)
  else if b == 0xF4 then some (3, 0x80, 0x8F, 4)
  else if 0xF1 ≤ b && b ≤ 0xF3 then some (3, 0x80, 0xBF, b - 0xF0)
  else none

/-- A character under way: the octets read, those owed, the bounds on the next one, and the value
so far. -/
structure Partial where
  read : Nat
  owed : Nat
  low : Nat
  high : Nat
  value : Nat
  deriving DecidableEq, Repr

/-- What an octet read between two characters is: the beginning of a character of several octets,
or a symbol by itself. -/
def start (b : UInt8) : Partial ⊕ Symbol :=
  if b.toNat < 0x80 then .inr (.char (Char.ofNat b.toNat))
  else match lead? b.toNat with
    | some (owed, low, high, value) => .inl ⟨1, owed, low, high, value⟩
    | none => .inr (.broken 1)

/-- Reads octets from between two characters, or in the middle of one. -/
def decodeFrom : Option Partial → List UInt8 → List Symbol
  | none, [] => []
  | some p, [] => [.broken p.read]
  | none, b :: rest =>
    match start b with
    | .inl p => decodeFrom (some p) rest
    | .inr s => s :: decodeFrom none rest
  | some p, b :: rest =>
    if p.low ≤ b.toNat ∧ b.toNat ≤ p.high then
      let value := p.value * 64 + (b.toNat - 0x80)
      if p.owed = 1 then .char (Char.ofNat value) :: decodeFrom none rest
      else decodeFrom (some ⟨p.read + 1, p.owed - 1, 0x80, 0xBF, value⟩) rest
    else
      .broken p.read ::
        match start b with
        | .inl q => decodeFrom (some q) rest
        | .inr s => s :: decodeFrom none rest

def decode (bytes : List UInt8) : List Symbol :=
  decodeFrom none bytes

/-- Octets read as UTF-8, with a replacement character for every ill-formed run. -/
def lossy (bytes : List UInt8) : String :=
  String.ofList (replaceBroken (decode bytes))

def encode (text : String) : List UInt8 :=
  text.toUTF8.toList

end CitedAnswers.Text
