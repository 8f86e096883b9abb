import CitedAnswers.Json.Value
import CitedAnswers.Number.Notation

/-! # Writing JSON

Documents are written without white space (`render`).  In strings only quotes, backslashes and
control characters are escaped; five of the latter have letters, the others are written by their
number in lower-case hexadecimal.  Numbers that are not finite are written as `null`.
-/

namespace CitedAnswers.Json

open CitedAnswers.Number

def hexChar (n : Nat) : Char :=
  if n < 10 then Char.ofNat (n + '0'.toNat) else Char.ofNat (n - 10 + 'a'.toNat)

/-- A character as it is written between the quotes. -/
def escapeChar (c : Char) : List Char :=
  if c = '"' then ['\\', '"']
  else if c = '\\' then ['\\', '\\']
  else if c = '\x08' then ['\\', 'b']
  else if c = '\x0c' then ['\\', 'f']
  else if c = '\n' then ['\\', 'n']
  else if c = '\r' then ['\\', 'r']
  else if c = '\t' then ['\\', 't']
  else if c.toNat < 0x20 then ['\\', 'u', '0', '0', hexChar (c.toNat / 16), hexChar (c.toNat % 16)]
  else [c]

def renderString (text : String) : List Char :=
  '"' :: text.toList.flatMap escapeChar ++ ['"']

def renderNumber : Numeric → String
  | .whole n => toString n
  | .double x => (x.scientific Binary.doubleLayout).getD "null"
  | .single x => (x.scientific Binary.singleLayout).getD "null"

mutual

def renderChars : Json → List Char
  | .null => ['n', 'u', 'l', 'l']
  | .bool true => ['t', 'r', 'u', 'e']
  | .bool false => ['f', 'a', 'l', 's', 'e']
  | .number n => (renderNumber n).toList
  | .string s => renderString s
  | .array items => '[' :: renderItems items ++ [']']
  | .object members => '\x7b' :: renderMembers members ++ ['\x7d']

def renderItems : List Json → List Char
  | [] => []
  | v :: rest =>
    match rest with
    | [] => renderChars v
    | _ :: _ => renderChars v ++ ',' :: renderItems rest

/-- The members of an object with commas between them. -/
def renderMembers : List (String × Json) → List Char
  | [] => []
  | (name, v) :: rest =>
    match rest with
    | [] => renderString name ++ ':' :: renderChars v
    | _ :: _ => renderString name ++ ':' :: renderChars v ++ ',' :: renderMembers rest

end

def render (v : Json) : String :=
  String.ofList (renderChars v)

end CitedAnswers.Json
