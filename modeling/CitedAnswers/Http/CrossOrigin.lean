import CitedAnswers.Http.Site

/-! # Requests from other origins

Browsers name the origin of a page that sends a request.  Pages of every origin are welcome: the
responses to their requests name their origin.  An `OPTIONS` request with an origin asks beforehand
what is allowed; it is responded to here and goes no further (`preflight`).

A rejection that says no more than that the request is not understood does not name the origin.
-/

namespace CitedAnswers.Http

open CitedAnswers.Answering (Session)

/-! ## What is allowed -/

def allowedMethods : List String := ["GET", "OPTIONS", "POST"]

def allowedHeaders : List String := [
  "accept", "access-control-request-headers", "access-control-request-method", "authorization",
  "content-length", "content-type", "origin", "referer", "sec-fetch-mode", "user-agent"]

/-- The name of a header field between commas: without blanks, in lower case. -/
def fieldName (piece : List Char) : String :=
  String.ofList ((Text.trim piece).map Char.toLower)

/-- Whether all the header fields of a list are allowed. -/
def areAllowed (list : String) : Bool :=
  isVisible list && (Text.pieces ',' list.toList).all fun piece =>
    allowedHeaders.contains (fieldName piece)

/-! ## Asking beforehand -/

/-- The header field that names the origin of a response. -/
def allowOrigin (origin : String) : String × String :=
  ("access-control-allow-origin", origin)

/-- The response to a request that asks beforehand. -/
def preflight (origin : String) (r : Request) : Response :=
  let method := r.headers.lookup "access-control-request-method"
  let fields := r.headers.lookup "access-control-request-headers"
  if !method.any allowedMethods.contains then
    .notice 403 "CORS request forbidden: request-method not allowed"
  else if !fields.all areAllowed then
    .notice 403 "CORS request forbidden: header not allowed"
  else
    ⟨200, [
      ("access-control-allow-headers", ", ".intercalate allowedHeaders),
      ("access-control-allow-methods", ", ".intercalate allowedMethods),
      allowOrigin origin], ""⟩

/-! ## Naming the origin -/

/-- Whether the response names the origin: all responses do to requests that were understood. -/
def namesOrigin (secret : Option String) (r : Request) : Bool :=
  match admission secret r with
  | .ok _ => true
  | .error .noAccess => true
  | .error _ => false

def Response.withOrigin (origin : String) (response : Response) : Response :=
  { response with headers := allowOrigin origin :: response.headers }

/-- Responds to a request that may come from another origin. -/
def Site.respondAcross {σ : Type} (site : Site σ) (s : Session σ) (r : Request) : Served σ :=
  match r.headers.lookup "origin" with
  | none => site.respond s r
  | some origin =>
    if r.method = "OPTIONS" then ⟨preflight origin r, [], s⟩
    else
      let served := site.respond s r
      if namesOrigin site.secret r then
        { served with response := served.response.withOrigin origin }
      else served

end CitedAnswers.Http
