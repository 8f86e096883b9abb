import CitedAnswers.Proofs.Chat.Presentations
import CitedAnswers.Proofs.Http.Gates
import CitedAnswers.Proofs.Json.Rendering

/-! # Completions

What a client reads in the response to a request to which all gates are open: the completion with
its model and the answer, or why there is none.  Both are read back character for character, since
what is written lays out what it was made of.

The main statement is `parse_response_of_opens`.  It also says what a response does not depend on:
of a request only the model and the messages count, however its body presents them and whatever else
the body has.
-/

namespace CitedAnswers.Http

open CitedAnswers.Answering (Ending ServiceError Session Setup)
open CitedAnswers.Chat (Message)
open CitedAnswers.Json (IsBlank Lays Tree parse_render)
open CitedAnswers.Text (symbols)

/-! ## Documents -/

/-- The document of a completion as it is read, its members in the order of their names. -/
def completion (model answer : String) : Json :=
  .object [
    ("choices", .array [.object [
      ("finish_reason", .string "stop"),
      ("index", .number (.whole 0)),
      ("message", .object [("content", .string answer), ("role", .string "assistant")])]]),
    ("created", .number (.whole 0)),
    ("id", .string "chatcmpl-local-001"),
    ("model", .string model),
    ("object", .string "chat.completion"),
    ("usage", .object [
      ("completion_tokens", .number (.whole 0)),
      ("prompt_tokens", .number (.whole 0)),
      ("total_tokens", .number (.whole 0))])]

theorem parse_envelope (model answer : String) :
    Json.parse (Chat.envelope model answer).render = .ok (completion model answer) := by
  apply parse_render
  rfl

theorem parse_detail (status : Nat) (text : String) :
    Json.parse (Response.detail status text).body = .ok (.object [("detail", .string text)]) := by
  apply parse_render
  rfl

/-! ## Responses -/

section Endings

variable {model : String} {e : Ending}

theorem completionResponse_ok {answer : String} (reply : e.reply = .ok answer) :
    completionResponse model e = .json 200 (Chat.envelope model answer) := by
  rw [completionResponse, reply]

theorem completionResponse_error {error : ServiceError} (reply : e.reply = .error error) :
    completionResponse model e =
      .detail 500 ("LLM error: PII redaction failed: " ++ error.message) := by
  rw [completionResponse, reply]
  exact congrArg (Response.detail 500) (String.append_assoc ..).symm

theorem status_eq_200_iff :
    (completionResponse model e).status = 200 ↔ ∃ answer, e.reply = .ok answer := by
  cases reply : e.reply with
  | ok answer => simp [completionResponse_ok reply, Response.json]
  | error error => simp [completionResponse_error reply, Response.detail, Response.json]

theorem status_eq_500_iff :
    (completionResponse model e).status = 500 ↔ ∃ error, e.reply = .error error := by
  cases reply : e.reply with
  | ok answer => simp [completionResponse_ok reply, Response.json]
  | error error => simp [completionResponse_error reply, Response.detail, Response.json]

end Endings

section Requests

variable {σ : Type} {site : Site σ} {s : Session σ} {r : Request} {model : String}
  {messages : List Message}

/-- A request that is decoded to a model and messages plays the turn of the messages. -/
theorem respond_of_decoded (chat : Route.ofTarget? r.target = some .chat)
    (opens : ∀ gate : Gate, gate.Opens site.secret r)
    (decoded : ∃ t, Chat.Request.decoder.run (Text.decode r.body) = .ok ⟨model, messages, t⟩) :
    let played := s.turn site.setup messages
    site.respond s r =
      ⟨completionResponse model played.ending, played.exchanges, played.session⟩ := by
  obtain ⟨t, decoded⟩ := decoded
  obtain ⟨request, decoded', admitted⟩ := admission_of_opens chat opens
  cases decoded.symm.trans decoded'
  rw [Site.respond, admitted]
  rfl

end Requests

/-- A request to which all gates are open plays one turn.  Its response has status 200 exactly if
the turn has an answer, and the completion with this answer and the model of the request is read in
it; it has status 500 exactly if the turn ends in an error, and the wording of the error is read in
it.  Every other request that presents the same model and messages is served alike. -/
theorem parse_response_of_opens {σ : Type} (site : Site σ) (s : Session σ) {r : Request}
    (chat : Route.ofTarget? r.target = some .chat)
    (opens : ∀ gate : Gate, gate.Opens site.secret r) {q : Chat.Request}
    (decoded : Chat.Request.decoder.run (Text.decode r.body) = .ok q) :
    let played := s.turn site.setup q.messages
    let served := site.respond s r
    served.exchanges = played.exchanges ∧ served.session = played.session ∧
    (served.response.status = 200 ↔ ∃ answer, played.ending.reply = .ok answer) ∧
    (∀ answer, played.ending.reply = .ok answer →
      Json.parse served.response.body = .ok (completion q.model answer)) ∧
    (served.response.status = 500 ↔ ∃ error, played.ending.reply = .error error) ∧
    (∀ error, played.ending.reply = .error error →
      Json.parse served.response.body = .ok (.object [("detail",
        .string ("LLM error: PII redaction failed: " ++ error.message))])) ∧
    (∀ r', Route.ofTarget? r'.target = some .chat →
      (∀ gate : Gate, gate.Opens site.secret r') →
      (∃ t, Chat.Request.decoder.run (Text.decode r'.body) = .ok { q with temperature := t }) →
      site.respond s r' = served) ∧
    ∀ r' before text after tree, Route.ofTarget? r'.target = some .chat →
      (∀ gate : Gate, gate ≠ .body → gate.Opens site.secret r') →
      Text.decode r'.body = symbols (before ++ text ++ after) →
      IsBlank before → Lays text tree → IsBlank after →
      Chat.Request.Presents tree q.model q.messages → site.respond s r' = served := by
  intro played served
  have responded : served =
      ⟨completionResponse q.model played.ending, played.exchanges, played.session⟩ :=
    respond_of_decoded chat opens ⟨q.temperature, decoded⟩
  have alike (r' : Request) (chat' : Route.ofTarget? r'.target = some .chat)
      (opens' : ∀ gate : Gate, gate.Opens site.secret r')
      (decoded' : ∃ t, Chat.Request.decoder.run (Text.decode r'.body) =
        .ok { q with temperature := t }) : site.respond s r' = served :=
    (respond_of_decoded chat' opens' decoded').trans responded.symm
  refine ⟨?_, ?_, ?_, ?_, ?_, ?_, alike, ?_⟩
  · rw [responded]
  · rw [responded]
  · rw [responded]
    exact status_eq_200_iff
  · intro answer reply
    rw [responded, completionResponse_ok reply]
    exact parse_envelope q.model answer
  · rw [responded]
    exact status_eq_500_iff
  · intro error reply
    rw [responded, completionResponse_error reply]
    exact parse_detail 500 _
  · intro r' before text after tree chat' opens' body front lays back presents
    have decoded' := Chat.Request.decode_of_presents front lays back presents
    rw [← body] at decoded'
    refine alike r' chat' ?_ decoded'
    intro gate
    -- A body that is decoded passes its gate.
    by_cases isBody : gate = .body
    · obtain ⟨t, decoded'⟩ := decoded'
      exact isBody ▸ ⟨_, decoded'⟩
    · exact opens' gate isBody

def plain : Request where
  method := "POST"
  target := "/chat/completions"
  headers := [("authorization", "Bearer k")]
  body := "\x7b\"model\":\"m\",
    \"messages\":[\x7b\"role\":\"user\",
    \"content\":\"hi\"\x7d]\x7d".toList.map fun c => c.toNat.toUInt8

/-- The same model and messages in another order and spelling, with a temperature and with a member
that is of no account. -/
def adorned : Request where
  method := "POST"
  target := "/chat/completions"
  headers := [("authorization", "Bearer k")]
  body := "\x7b\"x\":[\x7b\"y\":1e999\x7d], \"messages\":[[\"user\",\"h\\u0069\"]],
    \"temperature\":2,\"model\":\"\\u006d\"\x7d".toList.map fun c => c.toNat.toUInt8

theorem parse_response_of_opens_adorned :
    (guarded.respond ⟨(), .vacant, .empty⟩ plain).response.status = 500 ∧
      Json.parse (guarded.respond ⟨(), .vacant, .empty⟩ plain).response.body =
        .ok (.object [("detail",
          .string "LLM error: PII redaction failed: presidio-analyzer returned 503: busy")]) ∧
      guarded.respond ⟨(), .vacant, .empty⟩ adorned =
        guarded.respond ⟨(), .vacant, .empty⟩ plain := by
  have opens (r : Request) (method : r.method = "POST")
      (headers : r.headers = [("authorization", "Bearer k")])
      (body : ∃ q, Chat.Request.decoder.run (Text.decode r.body) = .ok q) (gate : Gate) :
      gate.Opens guarded.secret r := by
    cases gate with
    | method => exact method
    | authorization =>
      intro field given
      rw [headers] at given
      cases given
      exact isVisible_iff.mp (by decide)
    | access =>
      change isAuthorized (some "k") (r.headers.lookup "authorization") = true
      rw [headers]
      decide
    | mediaType =>
      intro value given
      rw [headers] at given
      cases given
    | body => exact body
  have decodedPlain : Chat.Request.decoder.run (Text.decode plain.body) =
      .ok ⟨"m", [.user "hi"], Chat.defaultTemperature⟩ := by decide +kernel
  have decodedAdorned : Chat.Request.decoder.run (Text.decode adorned.body) =
      .ok ⟨"m", [.user "hi"], Number.Binary.ofInt 2⟩ := by decide +kernel
  obtain ⟨-, -, -, -, failed, told, alike, -⟩ := parse_response_of_opens guarded
    ⟨(), .vacant, .empty⟩ (r := plain) (by decide) (opens plain rfl rfl ⟨_, decodedPlain⟩)
    decodedPlain
  refine ⟨failed.mpr ⟨busy, rfl⟩, told busy rfl, ?_⟩
  exact alike adorned (by decide) (opens adorned rfl rfl ⟨_, decodedAdorned⟩) ⟨_, decodedAdorned⟩

end CitedAnswers.Http
