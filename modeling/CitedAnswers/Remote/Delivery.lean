import CitedAnswers.Answering.Dialogue
import CitedAnswers.Http.MediaType
import CitedAnswers.Http.Request
import CitedAnswers.Json.Decoder
import CitedAnswers.Text.Charsets

/-! # Deliveries

Services are reached by posting documents to them.  A `Transport` delivers a document and brings
back the reply, or loses one of them on the way.

A reply is good for something only if its status says so and its body is one document of the shape
that was asked for (`Reply.classify`).  The text of a refusal is kept, as the character set that the
reply names reads it.

A reply may break off within its body.  Such a refusal is one with an empty body, as its text is
empty then (`Reply.text_of_empty`).  A reply that breaks off though its status says that the request
was served is one that was lost.
-/

namespace CitedAnswers.Remote

open CitedAnswers.Answering (ServiceError)
open CitedAnswers.Http (Headers MediaType isVisible)
open CitedAnswers.Json (Decoder)
open CitedAnswers.Text (Charsets)

/-! ## Requests and replies -/

structure Posting where
  url : String
  headers : Headers
  body : String
  deriving DecidableEq, Repr

structure Reply where
  status : Nat
  contentType : Option String
  body : List UInt8
  deriving DecidableEq, Repr

/-- Delivers documents: each is replied to or lost. -/
abbrev Transport (σ : Type) := Posting → σ → Option Reply × σ

/-- The transport that loses every document. -/
def unreachable : Transport Unit := fun _ _ => (none, ())

/-! ## Postings -/

/-- Where a service with this base address is reached: slashes at its end do not matter. -/
def endpoint (base path : String) : String :=
  String.ofList (base.toList.reverse.dropWhile (· = '/')).reverse ++ path

def isSendable (value : String) : Bool :=
  value.toList.all fun c => c = '\t' || (0x20 ≤ c.toNat && c.toNat ≠ 0x7F)

/-- A document with what authorises it.  There is none if that cannot be sent. -/
def Posting.make? (url : String) (authority : Headers) (document : Json) : Option Posting :=
  if authority.all fun (_, value) => isSendable value then
    some ⟨url, authority ++ [("content-type", "application/json")], document.render⟩
  else none

/-! ## Classification -/

namespace Reply

/-- Whether the status says that the request was served. -/
def isSuccess (r : Reply) : Bool :=
  200 ≤ r.status && r.status ≤ 299

/-- The name of the character set of the body, if the reply gives it. -/
def charset? (r : Reply) : Option String :=
  match r.contentType with
  | none => none
  | some value =>
    if isVisible value then (MediaType.parse? value).bind (·.parameter? "charset") else none

def text (charsets : Charsets) (r : Reply) : String :=
  charsets.read r.charset? r.body

theorem text_of_empty (charsets : Charsets) {r : Reply} (empty : r.body = []) :
    r.text charsets = "" := by
  rw [text, empty, charsets.read_nil]

theorem text_of_unnamed (charsets : Charsets) {r : Reply} (unnamed : r.charset? = none)
    (unmarked : Text.isMarked r.body = false) : r.text charsets = Text.lossy r.body := by
  rw [text, unnamed, charsets.read_unmarked _ unmarked]

/-- What a reply is worth: the value that is wanted of its document, or why there is none. -/
def classify {α β : Type} (charsets : Charsets) (service : String) (decoder : Decoder α)
    (want : α → Except String β) (r : Reply) : Except ServiceError β :=
  if r.isSuccess then
    match decoder.run (Text.decode r.body) with
    | .error e => .error (.unusable service e.message)
    | .ok a => (want a).mapError (.unusable service)
  else .error (.status service r.status (r.text charsets))

end Reply

/-- What is told of a request that was not sent or not replied to.  It is the same whatever went
wrong. -/
def lostOnTheWay : ServiceError :=
  .transport "<transport>"

/-- Posts a document, if there is one, and has its reply classified. -/
def exchange {σ α : Type} (transport : Transport σ) (posting : Option Posting)
    (classify : Reply → Except ServiceError α) (memory : σ) : Except ServiceError α × σ :=
  match posting with
  | none => (.error lostOnTheWay, memory)
  | some p =>
    match transport p memory with
    | (none, memory) => (.error lostOnTheWay, memory)
    | (some reply, memory) => (classify reply, memory)

end CitedAnswers.Remote
