import CitedAnswers.Json.Decoder
import CitedAnswers.Json.Printer

/-! # Messages of a conversation

A message has a role and a text.  Four roles have a name of their own in the program; any other
name is kept as it is.  `Role.ofName` and `Role.name` go back and forth between roles and names, and
no name is kept as `other` that has a role of its own.

The active question of a conversation is the text of its last user message, unless that text is
empty (`lastUserText?`).
-/

namespace CitedAnswers.Chat

open CitedAnswers.Json (Decoder Record Field Fault Found)

/-! ## Roles -/

inductive Role where
  | system
  | user
  | assistant
  | tool
  | other (name : String)
  deriving DecidableEq, Repr

namespace Role

def ofName (name : String) : Role :=
  if name = "system" then .system
  else if name = "user" then .user
  else if name = "assistant" then .assistant
  else if name = "tool" then .tool
  else .other name

def name : Role → String
  | system => "system"
  | user => "user"
  | assistant => "assistant"
  | tool => "tool"
  | other name => name

/-- A role that was made of a name has that name. -/
@[simp] theorem name_ofName (n : String) : (ofName n).name = n := by
  unfold ofName
  split
  · next h => exact h.symm
  split
  · next h => exact h.symm
  split
  · next h => exact h.symm
  split
  · next h => exact h.symm
  · rfl

end Role

/-! ## Messages -/

structure Message where
  role : Role
  content : String
  deriving DecidableEq, Repr

namespace Message

def system (content : String) : Message := ⟨.system, content⟩

def user (content : String) : Message := ⟨.user, content⟩

def assistant (content : String) : Message := ⟨.assistant, content⟩

/-! ## As JSON -/

def toJson (m : Message) : Json :=
  .object [("role", .string m.role.name), ("content", .string m.content)]

structure Gathered where
  role : Option String := none
  content : Option String := none

def record : Record Gathered Message where
  name := "ChatMessage"
  fields := [
    { name := "role"
      isSet := (·.role.isSome)
      read := fun depth g text =>
        Json.mapResult (fun s => { g with role := some s }) (Decoder.string depth text) },
    { name := "content"
      isSet := (·.content.isSome)
      read := fun depth g text =>
        Json.mapResult (fun s => { g with content := some s }) (Decoder.string depth text) }]
  start := {}
  finish
    | ⟨none, _⟩ => .error "role"
    | ⟨some _, none⟩ => .error "content"
    | ⟨some role, some content⟩ => .ok ⟨.ofName role, content⟩

def decoder : Decoder Message := record.decoder

/-! ## From JSON values

A value that has been read already has no places in a text, so its faults have none either, and the
members of an object are looked at in the order of their names. -/

/-- What a value is, for a message that it is not what was wanted. -/
def foundIn : Json → Found
  | .null => .null
  | .bool b => .boolean b
  | .number n => .number n
  | .string s => .string s
  | .array _ => .sequence
  | .object _ => .map

def wantText : Json → Except Fault String
  | .string s => .ok s
  | v => .error (.wrongType (foundIn v) .string)

/-- The text of a member that has to be a string if it is there. -/
def memberText? (name : String) (members : List (String × Json)) :
    Except Fault (Option String) :=
  match members.lookup name with
  | none => .ok none
  | some v => (wantText v).map some

def ofJson : Json → Except Fault Message
  | .object members => do
    let content ← memberText? "content" members
    let role ← memberText? "role" members
    match role, content with
    | none, _ => .error (.missingField "role")
    | some _, none => .error (.missingField "content")
    | some role, some content => .ok ⟨.ofName role, content⟩
  | .array items =>
    match items with
    | [] => .error (.wrongLength 0 (.fields "ChatMessage" 2))
    | role :: rest => do
      let role ← wantText role
      match rest with
      | [] => .error (.wrongLength 1 (.fields "ChatMessage" 2))
      | content :: rest => do
        let content ← wantText content
        if rest.isEmpty then .ok ⟨.ofName role, content⟩
        else .error (.wrongLength items.length .fewerElements)
  | v => .error (.wrongType (foundIn v) (.record "ChatMessage"))

def listOfJson : Json → Except Fault (List Message)
  | .array items => items.mapM ofJson
  | v => .error (.wrongType (foundIn v) .sequence)

end Message

/-! ## The active question -/

/-- The text of the last message of the user, if there is one and it is not empty.  Earlier messages
do not stand in for it. -/
def lastUserText? (conversation : List Message) : Option String :=
  match conversation.reverse.find? (·.role = .user) with
  | some m => if m.content = "" then none else some m.content
  | none => none

end CitedAnswers.Chat
