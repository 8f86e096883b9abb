import CitedAnswers.Environment.Line

/-! # Files of variables

A line ends at a line end, unless a quote is still open or the line end is kept by a backslash or a
blank; then the next line belongs to it (`logicalLines`).

The assignments of a file extend an environment line by line (`extend`).  A variable that is there
already keeps its value.  The first malformed line ends the file; what stands before it counts.
-/

namespace CitedAnswers.Environment

open CitedAnswers.Text (isBlank trimStart)

/-! ## Lines -/

/-- Where a line stands with regard to quotes, backslashes and blanks. -/
inductive Openness where
  | closed
  /-- Behind a blank that may have a comment behind it. -/
  | gap
  | escape
  | single
  | singleEscape
  | double
  | doubleEscape
  deriving DecidableEq, Repr

namespace Openness

/-- Where a line stands behind a character that no quote is open at. -/
def opening (c : Char) : Openness :=
  if c = '\\' then escape
  else if c = '"' then double
  else if c = '\'' then single
  else closed

/-- Where a line stands after one more character; nothing when the character begins a comment. -/
def step : Openness → Char → Option Openness
  | closed, c =>
    if isBlank c ∧ c ≠ '\n' ∧ c ≠ '\r' then some gap else some (opening c)
  | gap, c => if c = '#' then none else some (opening c)
  | escape, _ => some closed
  | single, c =>
    some (if c = '\\' then singleEscape else if c = '\'' then closed else single)
  | singleEscape, _ => some single
  | double, c => some (if c = '\\' then doubleEscape else if c = '"' then closed else double)
  | doubleEscape, _ => some double

/-- Where a line stands behind a text, or all of the text before a comment in it. -/
def scan (here : Openness) : List Char → Openness ⊕ List Char
  | [] => .inl here
  | c :: rest =>
    match here.step c with
    | none => .inr []
    | some next =>
      match scan next rest with
      | .inl last => .inl last
      | .inr kept => .inr (c :: kept)

end Openness

def physicalLines : List Char → List (List Char)
  | [] => []
  | c :: rest =>
    if c = '\n' then [c] :: physicalLines rest
    else
      match physicalLines rest with
      | [] => [[c]]
      | line :: more => (c :: line) :: more

def dropLineEnd (line : List Char) : List Char :=
  match line.reverse with
  | '\n' :: '\r' :: rest => rest.reverse
  | '\n' :: rest => rest.reverse
  | _ => line

/-- Joins lines that belong together.  `before` holds the lines that the next one belongs to; there
is nothing in the place of a line that the text ends within. -/
def joinLines (here : Openness) (before : List Char) : List (List Char) → List (Option (List Char))
  | [] => if here = .closed then [] else [none]
  | line :: rest =>
    let whole := before ++ line
    if (trimStart whole).head? = some '#' then some [] :: joinLines .closed [] rest
    else
      match here.scan line with
      | .inr kept => some (before ++ kept) :: joinLines .closed [] rest
      | .inl .closed => some (dropLineEnd whole) :: joinLines .closed [] rest
      | .inl next => joinLines next whole rest

/-- A text without the byte order mark at its beginning. -/
def dropMark (cs : List Char) : List Char :=
  if cs.head? = some (Char.ofNat 0xFEFF) then cs.drop 1 else cs

def logicalLines (text : String) : List (Option (List Char)) :=
  joinLines .closed [] (physicalLines (dropMark text.toList))

/-! ## Environments -/

/-- Variables with their values, in the order in which they were set. -/
abbrev Variables := List (String × String)

namespace Variables

/-- The value that is put in for a variable: none counts as an empty one. -/
def valueOf (vars : Variables) (name : String) : String :=
  (vars.lookup name).getD ""

/-- Sets a variable unless it is set. -/
def setNew (name value : String) (vars : Variables) : Variables :=
  if (vars.lookup name).isSome then vars else vars ++ [(name, value)]

def extendBy (vars : Variables) : List (Option (List Char)) → Variables
  | [] => vars
  | none :: _ => vars
  | some line :: rest =>
    match readLine vars.valueOf line with
    | .blank => vars.extendBy rest
    | .assignment name value => (vars.setNew name value).extendBy rest
    | .malformed => vars

def extend (vars : Variables) (file : String) : Variables :=
  vars.extendBy (logicalLines file)

end Variables

end CitedAnswers.Environment
