import CitedAnswers.Text.Prefix

/-! # Access

Requests for answers may have to carry a shared secret, either bare or as a bearer token.  Where no
secret is set, everyone has access.
-/

namespace CitedAnswers.Http

/-- What stands before a bearer token. -/
def bearer : String := "Bearer "

/-- The token in a header field: what stands behind `Bearer `, or else the whole field. -/
def token (field : String) : List Char :=
  (Text.behind? bearer.toList field.toList).getD field.toList

/-- Whether a request with this header field has access. -/
def isAuthorized (secret field : Option String) : Bool :=
  match secret, field with
  | none, _ => true
  | some _, none => false
  | some secret, some field => token field == secret.toList

end CitedAnswers.Http
