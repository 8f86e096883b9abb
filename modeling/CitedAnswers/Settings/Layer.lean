import CitedAnswers.Data.Association
import CitedAnswers.Settings.Value

/-! # Layers of settings

A layer holds the values that settings were given.  Values that are assigned later replace earlier
ones (`Layer.assign`).

A name may address a part of a setting, as in `a.b` or `a[0]`; no setting has parts, so this makes
the setting a table or a list (`Key`).  Tables are merged into what is there: an empty one changes
nothing.
-/

namespace CitedAnswers.Settings

/-! ## Names -/

/-- A part of a setting. -/
inductive Part where
  | member
  | item
  deriving DecidableEq, Repr

/-- The name of a setting, and the part of it that is addressed, if any. -/
structure Key where
  name : String
  part : Option Part
  deriving DecidableEq, Repr

/-- Whether a character may stand in a name that is followed by parts, or in the name of a part. -/
def isNameChar (c : Char) : Bool :=
  c.isAlphanum || c == '_' || c == '-' || c == ' '

/-- Takes an index behind its opening bracket: the text behind the closing bracket, if there is an
index of the signed 64-bit range. -/
def takeIndex? (cs : List Char) : Option (List Char) :=
  let isGap := fun c => c == ' ' || c == '\t'
  let (negative, digits) := match cs.dropWhile isGap with
    | '-' :: rest => (true, rest)
    | rest => (false, rest)
  match Number.natural? (digits.takeWhile Char.isDigit) with
  | none => none
  | some n =>
    if isInt64 (if negative then -n else n) then
      match (digits.dropWhile Char.isDigit).dropWhile isGap with
      | ']' :: rest => some rest
      | _ => none
    else none

/-- Whether a text is a series of parts.  Each part takes at least one character, so a text of
`fuel` characters has no more than `fuel` of them. -/
def areParts : (fuel : Nat) → List Char → Bool
  | _, [] => true
  | 0, _ :: _ => false
  | fuel + 1, c :: rest =>
    if c = '.' then
      !(rest.takeWhile isNameChar).isEmpty && areParts fuel (rest.dropWhile isNameChar)
    else if c = '[' then
      match takeIndex? rest with
      | some left => areParts fuel left
      | none => false
    else false

/-- The key that a text is.  A text that addresses no part is a name as a whole. -/
def Key.ofText (text : String) : Key :=
  let cs := text.toList
  let name := cs.takeWhile isNameChar
  let parts := cs.dropWhile isNameChar
  if !name.isEmpty && areParts parts.length parts then
    match parts with
    | '.' :: _ => ⟨String.ofList name, some .member⟩
    | '[' :: _ => ⟨String.ofList name, some .item⟩
    | _ => ⟨text, none⟩
  else ⟨text, none⟩

/-! ## Layers -/

/-- A value, and whether it was taken from the environment. -/
structure Given where
  value : Value
  fromEnvironment : Bool
  deriving DecidableEq, Repr

structure Assignment where
  key : String
  given : Given
  deriving DecidableEq, Repr

/-- Settings with the values they were given, each once. -/
abbrev Layer := List (String × Given)

namespace Layer

/-- A list or table that came about by merging. -/
def merged (value : Value) : Given := ⟨value, false⟩

def assign (layer : Layer) (a : Assignment) : Layer :=
  let key := Key.ofText a.key
  match key.part with
  | some .member => Association.put key.name (merged (.table false)) layer
  | some .item => Association.put key.name (merged .list) layer
  | none =>
    match a.given.value with
    | .table isEmpty =>
      if isEmpty ∧ (layer.lookup key.name).isSome then layer
      else Association.put key.name (merged (.table isEmpty)) layer
    | _ => Association.put key.name a.given layer

def assignAll (layer : Layer) (assignments : List Assignment) : Layer :=
  assignments.foldl assign layer

end Layer

end CitedAnswers.Settings
