import CitedAnswers.Answering.Session
import CitedAnswers.Http.Admission
import CitedAnswers.Metrics.Exposition

/-! # The site

Requests are answered out of a session (`Site.respond`).  Only an admitted completion request plays
a turn of it; every other request leaves it as it is.
-/

namespace CitedAnswers.Http

open CitedAnswers.Answering (Ending Exchange Session Setup)

/-- What is fixed while requests are answered: how turns are played, the shared secret, and the name
of the model on offer. -/
structure Site (σ : Type) where
  setup : Setup σ
  secret : Option String
  modelId : String

/-- A request that was served: its response, the exchanges with services, and the session
afterwards. -/
structure Served (σ : Type) where
  response : Response
  exchanges : List Exchange
  session : Session σ

def completionResponse (model : String) (e : Ending) : Response :=
  match e.reply with
  | .ok answer => .json 200 (Chat.envelope model answer)
  | .error error => .detail 500 ("LLM error: " ++ Ending.refusal error)

def metricsResponse (t : Metrics.Tally) : Response :=
  ⟨200, [("content-type", Metrics.contentType)], Metrics.exposition t⟩

def healthResponse : Response :=
  .json 200 (.object [("status", .string "healthy")])

variable {σ : Type}

namespace Site

def serve (site : Site σ) (s : Session σ) : Admitted → Served σ
  | .health => ⟨healthResponse, [], s⟩
  | .models => ⟨.json 200 (Chat.modelList site.modelId), [], s⟩
  | .metrics => ⟨metricsResponse s.tally, [], s⟩
  | .chat request =>
    let played := s.turn site.setup request.messages
    ⟨completionResponse request.model played.ending, played.exchanges, played.session⟩

def respond (site : Site σ) (s : Session σ) (r : Request) : Served σ :=
  match admission site.secret r with
  | .error rejection => ⟨rejection.response, [], s⟩
  | .ok admitted => site.serve s admitted

def respondAll (site : Site σ) : List Request → Session σ → List (Served σ)
  | [], _ => []
  | r :: rest, s =>
    let served := site.respond s r
    served :: respondAll site rest served.session

end Site

end CitedAnswers.Http
