import CitedAnswers.Json.Lexeme

/-! # The grammar of JSON

`Lays text tree` says that a text lays out a tree of values: with any white space between the
lexemes, with any spelling of its strings, with numbers as they are written.  Members of objects
stay as they come, also where two have one name.

A string is spelled by its characters and by escapes of sixteen bits.  An escape may be one half of
a character only (`Piece.half`); a string with a half that has no partner is laid out as any other,
but it is no text (`charsOf?`).
-/

namespace CitedAnswers.Json

/-! ## White space -/

def IsBlank (gap : List Char) : Prop :=
  ∀ c ∈ gap, c = ' ' ∨ c = '\t' ∨ c = '\n' ∨ c = '\r'

/-! ## Strings -/

/-- What one part of a spelling stands for. -/
inductive Piece where
  | char (c : Char)
  | half (unit : Nat)
  deriving DecidableEq, Repr

def Piece.ofUnit (unit : Nat) : Piece :=
  if 0xD800 ≤ unit ∧ unit ≤ 0xDFFF then .half unit else .char (Char.ofNat unit)

def joined (high low : Nat) : Char :=
  Char.ofNat (0x10000 + (high - 0xD800) * 0x400 + (low - 0xDC00))

/-- The characters that pieces stand for, if each half has its partner. -/
def charsOf? : List Piece → Option (List Char)
  | [] => some []
  | .char c :: rest => (charsOf? rest).map (c :: ·)
  | .half high :: .half low :: rest =>
    if high ≤ 0xDBFF ∧ 0xDC00 ≤ low then (charsOf? rest).map (joined high low :: ·) else none
  | .half _ :: _ => none

def textOf? (pieces : List Piece) : Option String :=
  (charsOf? pieces).map String.ofList

/-- The letters of the short escapes, each with the character it stands for. -/
def shortEscapes : List (Char × Char) :=
  [('"', '"'), ('\\', '\\'), ('/', '/'), ('b', '\x08'), ('f', '\x0c'), ('n', '\n'), ('r', '\r'),
    ('t', '\t')]

/-- Hexadecimal digits may be capitals. -/
def IsHex (c : Char) (d : Nat) : Prop :=
  d < 16 ∧ (c = Nat.digitChar d ∨ c = (Nat.digitChar d).toUpper)

/-- Four hexadecimal digits and the number they make. -/
inductive IsWord : List Char → Nat → Prop where
  | digits {a b c d : Char} {i j k l : Nat} (first : IsHex a i) (second : IsHex b j)
      (third : IsHex c k) (fourth : IsHex d l) :
      IsWord [a, b, c, d] (((i * 16 + j) * 16 + k) * 16 + l)

/-- The text between the quotes of a string, and the pieces it spells. -/
inductive Spells : List Char → List Piece → Prop where
  | nil : Spells [] []
  | plain {c : Char} {text : List Char} {pieces : List Piece}
      (free : c ≠ '"' ∧ c ≠ '\\' ∧ 0x20 ≤ c.toNat) (rest : Spells text pieces) :
      Spells (c :: text) (.char c :: pieces)
  | short {letter c : Char} {text : List Char} {pieces : List Piece}
      (stands : (letter, c) ∈ shortEscapes) (rest : Spells text pieces) :
      Spells ('\\' :: letter :: text) (.char c :: pieces)
  | word {digits text : List Char} {unit : Nat} {pieces : List Piece}
      (word : IsWord digits unit) (rest : Spells text pieces) :
      Spells ('\\' :: 'u' :: digits ++ text) (.ofUnit unit :: pieces)

def quoted (text : List Char) : List Char :=
  '"' :: text ++ ['"']

/-! ## Numbers -/

def IsRun (ds : List Nat) : Prop :=
  ds ≠ [] ∧ ∀ d ∈ ds, d < 10

def figures (ds : List Nat) : List Char :=
  ds.map Nat.digitChar

inductive WritesFraction : List Char → Option (List Nat) → Prop where
  | none : WritesFraction [] none
  | some {ds : List Nat} (run : IsRun ds) : WritesFraction ('.' :: figures ds) (some ds)

inductive WritesExponent : List Char → Option (Bool × List Nat) → Prop where
  | none : WritesExponent [] none
  | unsigned {mark : Char} {ds : List Nat} (isMark : mark = 'e' ∨ mark = 'E') (run : IsRun ds) :
      WritesExponent (mark :: figures ds) (some (false, ds))
  | signed {mark : Char} {negative : Bool} {ds : List Nat} (isMark : mark = 'e' ∨ mark = 'E')
      (run : IsRun ds) :
      WritesExponent (mark :: (if negative then '-' else '+') :: figures ds)
        (some (negative, ds))

/-- A number behind its sign.  Only zero itself begins with the digit zero. -/
inductive WritesMagnitude : List Char → Numeral → Prop where
  | parts {negative : Bool} {integer : List Nat} {fraction : Option (List Nat)}
      {exponent : Option (Bool × List Nat)} {behindPoint behindMark : List Char}
      (run : IsRun integer) (leading : integer.head? = some 0 → integer = [0])
      (point : WritesFraction behindPoint fraction) (mark : WritesExponent behindMark exponent) :
      WritesMagnitude (figures integer ++ behindPoint ++ behindMark)
        ⟨negative, integer, fraction, exponent⟩

inductive Writes : List Char → Numeral → Prop where
  | plain {text : List Char} {n : Numeral} (sign : n.negative = false)
      (magnitude : WritesMagnitude text n) : Writes text n
  | minus {text : List Char} {n : Numeral} (sign : n.negative = true)
      (magnitude : WritesMagnitude text n) : Writes ('-' :: text) n

/-! ## Values -/

/-- Texts with commas between them, and any white space around the commas. -/
inductive Listed {α : Type} (P : List Char → α → Prop) : List Char → List α → Prop where
  | last {text : List Char} {a : α} (item : P text a) : Listed P text [a]
  | cons {text after before others : List Char} {a : α} {as : List α} (item : P text a)
      (back : IsBlank after) (front : IsBlank before) (rest : Listed P others as) :
      Listed P (text ++ after ++ ',' :: before ++ others) (a :: as)

/-- What may stand between the brackets of a list or the braces of an object. -/
inductive Inside {α : Type} (P : List Char → α → Prop) : List Char → List α → Prop where
  | nothing {gap : List Char} (blank : IsBlank gap) : Inside P gap []
  | items {before text after : List Char} {as : List α} (front : IsBlank before)
      (listed : Listed P text as) (back : IsBlank after) : Inside P (before ++ text ++ after) as

/-- A name, a colon and what is named. -/
inductive Named {α : Type} (P : List Char → α → Prop) : List Char → List Piece × α → Prop where
  | member {spelling before after text : List Char} {name : List Piece} {a : α}
      (spells : Spells spelling name) (front : IsBlank before) (back : IsBlank after)
      (value : P text a) :
      Named P (quoted spelling ++ before ++ ':' :: after ++ text) (name, a)

inductive Tree where
  | null
  | bool (b : Bool)
  | number (n : Numeral)
  | string (pieces : List Piece)
  | array (items : List Tree)
  | object (members : List (List Piece × Tree))

inductive Lays : List Char → Tree → Prop where
  | null : Lays ['n', 'u', 'l', 'l'] .null
  | true : Lays ['t', 'r', 'u', 'e'] (.bool true)
  | false : Lays ['f', 'a', 'l', 's', 'e'] (.bool false)
  | number {text : List Char} {n : Numeral} (writes : Writes text n) : Lays text (.number n)
  | string {text : List Char} {pieces : List Piece} (spells : Spells text pieces) :
      Lays (quoted text) (.string pieces)
  | array {text : List Char} {items : List Tree} (inside : Inside Lays text items) :
      Lays ('[' :: text ++ [']']) (.array items)
  | object {text : List Char} {members : List (List Piece × Tree)}
      (inside : Inside (Named Lays) text members) :
      Lays ('\x7b' :: text ++ ['\x7d']) (.object members)

end CitedAnswers.Json
