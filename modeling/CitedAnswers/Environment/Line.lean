import CitedAnswers.Text.Alphanumeric
import CitedAnswers.Text.Blank

/-! # Lines of variable files

A line of a file of variables is blank, a comment, or assigns a value to a name, with or without the
word `export` before it.  In a value

* single quotes keep everything between them as it is,
* double quotes keep blanks,
* a backslash keeps the character behind it, or makes a line end of an `n`, and
* a dollar sign puts in the value of the variable that it names.

A comment may follow the value behind a blank.  Any other line is malformed.
-/

namespace CitedAnswers.Environment

open CitedAnswers.Text (isAlphanumeric isBlank trimEnd trimStart)

/-! ## Values -/

/-- Where a reader stands in a value.  `quoted` tells whether this is between double quotes, and
`seen` holds the characters of a variable's name, the last one first. -/
inductive InValue where
  | plain (quoted : Bool)
  /-- Between single quotes. -/
  | verbatim
  /-- Behind a backslash. -/
  | escape (quoted : Bool)
  /-- Behind a dollar sign. -/
  | named (quoted : Bool) (seen : List Char)
  /-- Behind a dollar sign and a brace. -/
  | braced (quoted : Bool) (seen : List Char)
  /-- Behind the value. -/
  | ended
  deriving DecidableEq, Repr

/-- The character that stands for the one behind a backslash. -/
def unescape? (c : Char) : Option Char :=
  if ['\\', '\'', '"', '$', ' '].contains c then some c
  else if c = 'n' then some '\n'
  else none

/-- Reads a value to its end.  `valueOf` gives the values of variables.  A dollar sign right behind
the name of a variable begins another one, and any other character there is taken as it is. -/
def readValue (valueOf : String → String) : InValue → List Char → Option (List Char)
  | .plain quoted, [] => if quoted then none else some []
  | .verbatim, [] => none
  | .escape quoted, [] => if quoted then none else some []
  | .named quoted seen, [] => if quoted then none else some (value seen)
  | .braced _ _, [] => none
  | .ended, [] => some []
  | .plain quoted, c :: rest =>
    if c = '$' then readValue valueOf (.named quoted []) rest
    else if c = '\\' then readValue valueOf (.escape quoted) rest
    else if c = '"' then readValue valueOf (.plain !quoted) rest
    else if !quoted ∧ c = '\'' then readValue valueOf .verbatim rest
    else if !quoted ∧ (c = ' ' ∨ c = '\t') then readValue valueOf .ended rest
    else (readValue valueOf (.plain quoted) rest).map (c :: ·)
  | .verbatim, c :: rest =>
    if c = '\'' then readValue valueOf (.plain false) rest
    else (readValue valueOf .verbatim rest).map (c :: ·)
  | .escape quoted, c :: rest =>
    match unescape? c with
    | none => none
    | some d => (readValue valueOf (.plain quoted) rest).map (d :: ·)
  | .named quoted seen, c :: rest =>
    if isAlphanumeric c then readValue valueOf (.named quoted (c :: seen)) rest
    else if c = '\x7b' ∧ seen = [] then readValue valueOf (.braced quoted []) rest
    else if c = '$' then
      (readValue valueOf (.named quoted []) rest).map (value seen ++ ·)
    else (readValue valueOf (.plain quoted) rest).map (value seen ++ c :: ·)
  | .braced quoted seen, c :: rest =>
    if c = '\x7d' then (readValue valueOf (.plain quoted) rest).map (value seen ++ ·)
    else readValue valueOf (.braced quoted (c :: seen)) rest
  | .ended, c :: rest =>
    if c = ' ' ∨ c = '\t' then readValue valueOf .ended rest
    else if c = '#' then some []
    else none
where
  /-- The value of the variable whose name has been seen. -/
  value (seen : List Char) : List Char :=
    (valueOf (String.ofList seen.reverse)).toList

/-! ## Lines -/

inductive Line where
  | blank
  | assignment (name value : String)
  | malformed
  deriving DecidableEq, Repr

def isNameStart (c : Char) : Bool :=
  c.isAlpha || c == '_'

def isNameChar (c : Char) : Bool :=
  c.isAlphanum || c == '_' || c == '.'

def takeName? (cs : List Char) : Option (String × List Char) :=
  if cs.head?.any isNameStart then
    some (String.ofList (cs.takeWhile isNameChar), trimStart (cs.dropWhile isNameChar))
  else none

def takeEquals? : List Char → Option (List Char)
  | '=' :: rest => some (trimStart rest)
  | _ => none

/-- Takes the name that a line assigns to, and the equals sign.  The word `export` is a name only if
an equals sign follows it. -/
def takeTarget? (cs : List Char) : Option (String × List Char) :=
  match takeName? cs with
  | none => none
  | some (name, rest) =>
    match takeEquals? rest with
    | some value => some (name, value)
    | none =>
      if name = "export" then
        (takeName? rest).bind fun (name, rest) =>
          (takeEquals? rest).map fun value => (name, value)
      else none

/-- Whether nothing but a comment stands here. -/
def isVoid (cs : List Char) : Bool :=
  cs.isEmpty || cs.head? == some '#'

/-- What a line says, where `valueOf` gives the values of variables. -/
def readLine (valueOf : String → String) (line : List Char) : Line :=
  let text := trimStart (trimEnd line)
  if isVoid text then .blank
  else
    match takeTarget? text with
    | none => .malformed
    | some (name, rest) =>
      if isVoid rest then .assignment name ""
      else
        match readValue valueOf (.plain false) rest with
        | some value => .assignment name (String.ofList value)
        | none => .malformed

end CitedAnswers.Environment
