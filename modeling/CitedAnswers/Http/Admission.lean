import CitedAnswers.Chat.Completion
import CitedAnswers.Http.Access
import CitedAnswers.Http.MediaType
import CitedAnswers.Http.Response
import CitedAnswers.Http.Route

/-! # Admission

Which requests are answered, and why the others are not (`admission`).  The path is looked at first
and the method second.  A request for an answer then has to pass four checks in order: its
authorization field must be text, it must have access, its body must be announced as JSON if it is
announced at all, and the body must be a completion request.  The first that fails decides.
-/

namespace CitedAnswers.Http

/-! ## Rejections -/

inductive Rejection where
  | noSuchPath
  | wrongMethod
  | unreadableHeader (name : String)
  | noAccess
  | wrongMediaType
  | undecodable (error : Json.Error)
  deriving DecidableEq, Repr

namespace Rejection

/-- The response to a request that is not answered. -/
def response : Rejection → Response
  | noSuchPath => .bare 404
  | wrongMethod => .notice 405 "HTTP method not allowed"
  | unreadableHeader name => .notice 400 ("Invalid request header \"" ++ name ++ "\"")
  | noAccess => .detail 403 "Could not validate credentials"
  | wrongMediaType => .notice 415 "The request's content-type is not supported"
  | undecodable error =>
    .notice 400 ("Request body deserialize error: " ++ error.message)

end Rejection

/-! ## Checks -/

def readAuthorization (r : Request) : Except Rejection (Option String) :=
  match r.headers.lookup "authorization" with
  | none => .ok none
  | some field =>
    if isVisible field then .ok (some field) else .error (.unreadableHeader "authorization")

def checkAccess (secret field : Option String) : Except Rejection Unit :=
  if isAuthorized secret field then .ok () else .error .noAccess

/-- The body has to be announced as JSON, or not at all. -/
def checkMediaType (r : Request) : Except Rejection Unit :=
  match r.headers.lookup "content-type" with
  | none => .ok ()
  | some value =>
    if isVisible value && (MediaType.parse? value).any MediaType.isJson then .ok ()
    else .error .wrongMediaType

def readBody (r : Request) : Except Rejection Chat.Request :=
  match Chat.Request.decoder.run (Text.decode r.body) with
  | .ok request => .ok request
  | .error e => .error (.undecodable e)

def passChecks (secret : Option String) (r : Request) : Except Rejection Chat.Request := do
  let field ← readAuthorization r
  checkAccess secret field
  checkMediaType r
  readBody r

/-! ## Admission -/

inductive Admitted where
  | health
  | models
  | metrics
  | chat (request : Chat.Request)
  deriving DecidableEq, Repr

def admission (secret : Option String) (r : Request) : Except Rejection Admitted :=
  match Route.ofTarget? r.target with
  | none => .error .noSuchPath
  | some route =>
    if r.method ≠ route.method then .error .wrongMethod
    else
      match route with
      | .health => .ok .health
      | .models => .ok .models
      | .metrics => .ok .metrics
      | .chat => (passChecks secret r).map .chat

end CitedAnswers.Http
