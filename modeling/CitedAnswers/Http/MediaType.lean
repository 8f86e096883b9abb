/-! # Media types

A media type is a type and a subtype with a slash between them, and parameters behind semicolons.
A suffix behind the last plus sign of the subtype is no part of it.  Types, subtypes and the names
of parameters are the same in capitals or not; they are kept in lower case.
-/

namespace CitedAnswers.Http

/-! ## Characters -/

/-- Whether a character may stand in a type, a subtype or a parameter. -/
def isTokenChar (c : Char) : Bool :=
  c.isAlphanum || "!#$%&'*+-.^_\x60|~".toList.contains c

/-- Whether a character may stand in a quoted value. -/
def isQuotable (c : Char) : Bool :=
  0x1F < c.toNat && c.toNat != 0x7F

def lowered (cs : List Char) : String :=
  String.ofList (cs.map Char.toLower)

/-! ## Parameters -/

abbrev Parameter := String × String

/-- Where a reader stands among parameters, with the name and the value read so far, the last
character first. -/
inductive InParameter where
  /-- Before a name. -/
  | gap
  /-- Inside a name. -/
  | name (seen : List Char)
  /-- Inside a plain value, or before any value. -/
  | plain (name : String) (seen : List Char)
  /-- Inside a quoted value. -/
  | quoted (name : String) (seen : List Char)
  /-- Behind a closing quote. -/
  | closed
  deriving DecidableEq, Repr

namespace InParameter

def parameter (name : String) (seen : List Char) : Parameter :=
  (name, String.ofList seen.reverse)

/-- Reads one more character, if it may stand here: where the reader stands then, and the parameter
that ended with it.  A quoted value has at least one character, and the first may be a quote. -/
def step : InParameter → Char → Option (InParameter × Option Parameter)
  | gap, c =>
    if c = ' ' then some (gap, none)
    else if isTokenChar c then some (name [c], none)
    else none
  | name seen, c =>
    if c = '=' then some (plain (lowered seen.reverse) [], none)
    else if isTokenChar c then some (name (c :: seen), none)
    else none
  | plain n seen, c =>
    if c = '"' ∧ seen = [] then some (quoted n [], none)
    else if c = ';' ∧ seen ≠ [] then some (gap, some (parameter n seen))
    else if isTokenChar c then some (plain n (c :: seen), none)
    else none
  | quoted n seen, c =>
    if c = '"' ∧ seen ≠ [] then some (closed, some (parameter n seen))
    else if isQuotable c then some (quoted n (c :: seen), none)
    else none
  | closed, c =>
    if c = ';' then some (gap, none) else if c = ' ' then some (closed, none) else none

/-- Ends the parameters here, if they may end here: what ended with them. -/
def finish : InParameter → Option (Option Parameter)
  | gap => some none
  | plain n seen => some (some (parameter n seen))
  | closed => some none
  | _ => none

end InParameter

def readParameters : InParameter → List Char → Option (List Parameter)
  | here, [] => here.finish.map Option.toList
  | here, c :: rest =>
    match here.step c with
    | none => none
    | some (next, ended) => (readParameters next rest).map (ended.toList ++ ·)

/-! ## Media types -/

structure MediaType where
  type : String
  subtype : String
  parameters : List Parameter
  deriving DecidableEq, Repr

/-- A subtype without the suffix behind its last plus sign.  A plus sign at its beginning belongs to
the subtype. -/
def withoutSuffix (subtype : List Char) : List Char :=
  match subtype with
  | [] => []
  | c :: rest =>
    let suffix := rest.reverse.takeWhile (· ≠ '+')
    if suffix.length = rest.length then subtype
    else c :: rest.take (rest.length - suffix.length - 1)

namespace MediaType

def parse? (text : String) : Option MediaType :=
  let cs := text.toList
  let type := cs.takeWhile isTokenChar
  match cs.dropWhile isTokenChar with
  | '/' :: rest =>
    let subtype := rest.takeWhile isTokenChar
    let parameters := match rest.dropWhile isTokenChar with
      | [] => some []
      | c :: more =>
        if c = ';' ∧ subtype ≠ [] then readParameters .gap more else none
    if type = [] then none
    else parameters.map fun ps => ⟨lowered type, lowered (withoutSuffix subtype), ps⟩
  | _ => none

def isJson (m : MediaType) : Bool :=
  m.type == "application" && m.subtype == "json"

/-- The value of the first parameter with this name. -/
def parameter? (name : String) (m : MediaType) : Option String :=
  (m.parameters.find? (·.1 = name)).map Prod.snd

end MediaType

end CitedAnswers.Http
