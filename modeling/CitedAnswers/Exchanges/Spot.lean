import CitedAnswers.Text.Split

/-! # What stands at a path

The path of a file leads through directories to a name.  What stands there may be changed from
outside at any time, so it is a state of its own (`Spot`).  Of a path at which nothing stands, the
names that are missing on the way are kept: a name may be one that no file can have (`Name`), and a
directory that is made makes those on the way to it.
-/

namespace CitedAnswers.Exchanges

/-! ## Names -/

/-- A name on a path, by what can be made with it. -/
inductive Name where
  /-- A file or a directory. -/
  | plain
  /-- A directory only: the name is followed by a slash or stands for a directory. -/
  | folder
  /-- Nothing, because the name is too long. -/
  | overlong
  /-- Nothing, because the name is no name: it holds a NUL. -/
  | broken
  deriving DecidableEq, Repr

namespace Name

/-- The greatest number of octets in a name. -/
def limit : Nat := 255

/-- The greatest number of octets in a path. -/
def pathLimit : Nat := 4095

/-- Whether a piece of a path stands for the directory before it or the one around that. -/
def isRelative (piece : String) : Bool :=
  piece == "." || piece == ".."

def ofPiece (piece : String) : Name :=
  if piece.toList.contains (Char.ofNat 0) then broken
  else if limit < piece.utf8ByteSize then overlong
  else plain

def ofLastPiece (piece : String) (isOpen : Bool) : Name :=
  match ofPiece piece with
  | plain => if isOpen || isRelative piece then folder else plain
  | name => name

/-- The kinds of the names that the pieces of a path give.  `isOpen` tells of a slash behind the
last of them. -/
def ofPieces (isOpen : Bool) : List String → List Name
  | [] => []
  | [piece] => [ofLastPiece piece isOpen]
  | piece :: rest => ofPiece piece :: ofPieces isOpen rest

/-- The kinds of the names on a path that are missing in an empty directory. -/
def missing (path : String) : List Name :=
  let pieces := ((Text.pieces '/' path.toList).map String.ofList).filter (· ≠ "")
  let names := ofPieces (path.endsWith "/") (pieces.dropWhile isRelative)
  if pathLimit < path.utf8ByteSize then names.map fun _ => overlong else names

end Name

/-! ## What stands at a path -/

inductive Spot where
  | file (content : String)
  | directory
  /-- Nothing: the first name that is missing, and the names behind it. -/
  | absent (first : Name) (more : List Name)
  /-- Nothing, because a name on the way is that of a file. -/
  | blocked
  deriving DecidableEq, Repr

inductive WriteError where
  | isDirectory
  | notDirectory
  | noDirectory
  | nameTooLong
  | noName
  deriving DecidableEq, Repr

def WriteError.message : WriteError → String
  | .isDirectory => "IO error: Is a directory (os error 21)"
  | .notDirectory => "IO error: Not a directory (os error 20)"
  | .noDirectory => "IO error: No such file or directory (os error 2)"
  | .nameTooLong => "IO error: File name too long (os error 36)"
  | .noName => "IO error: file name contained an unexpected NUL byte"

namespace Spot

/-- Nothing, but a file can be made. -/
@[match_pattern]
def vacant : Spot := absent .plain []

/-- What stands at a path in an empty directory. -/
def ofPath (path : String) : Spot :=
  match Name.missing path with
  | [] => directory
  | first :: more => absent first more

def content? : Spot → Option String
  | file content => some content
  | _ => none

/-- Why no file can be made under names that are missing.  The first of them decides, but a path
with a name that is no name leads nowhere. -/
def obstacle? (first : Name) (more : List Name) : Option WriteError :=
  if (first :: more).contains .broken then some .noName
  else
    match first, more with
    | .overlong, _ => some .nameTooLong
    | _, _ :: _ => some .noDirectory
    | .folder, [] => some .isDirectory
    | _, [] => none

/-- What can be appended to: the content so far, where no file counts as an empty one. -/
def writable? : Spot → Except WriteError String
  | file content => .ok content
  | directory => .error .isDirectory
  | absent first more =>
    match obstacle? first more with
    | some error => .error error
    | none => .ok ""
  | blocked => .error .notDirectory

/-! ## Changes from outside

Each gives what stands at the path afterwards, and whether the change could be made. -/

/-- Puts a file with this content in the place of what is there. -/
def replaceText (content : String) (spot : Spot) : Spot × Bool :=
  match spot.writable? with
  | .ok _ => (file content, true)
  | .error _ => (spot, false)

def removeFile : Spot → Spot × Bool
  | file _ => (vacant, true)
  | spot => (spot, false)

/-- Makes the directories on the way to the last name, as far as they can be made. -/
def makeWay : (first : Name) → (more : List Name) → Spot × Bool
  | first, [] => (absent first [], true)
  | .overlong, more => (absent .overlong more, false)
  | _, next :: more => makeWay next more

/-- Makes the directory around the path, with those around it. -/
def makeParent : Spot → Spot × Bool
  | absent first more =>
    if (first :: more).dropLast.contains .broken then (absent first more, false)
    else makeWay first more
  | blocked => (blocked, false)
  | spot => (spot, true)

def makeDirectory : Spot → Spot × Bool
  | file content => (file content, false)
  | directory => (directory, true)
  | absent first more =>
    if (first :: more).contains .broken then (absent first more, false)
    else
      match makeWay first more with
      | (absent .overlong rest, _) => (absent .overlong rest, false)
      | _ => (directory, true)
  | blocked => (blocked, false)

end Spot

end CitedAnswers.Exchanges
