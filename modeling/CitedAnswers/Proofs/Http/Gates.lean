import CitedAnswers.Http.Site
import CitedAnswers.Proofs.Http.MediaTypes

/-! # The gates before an answer

A request for an answer comes to five gates one after the other (`Gate`).  Whether a gate is open to
it depends on its own part of the request only, and the first gate that is not decides what is
responded (`Gate.Decides`), whatever is wrong behind it.

The main statement is `respond_of_gates`: a request that a gate decides about leaves the session as
it is, and one to which all gates are open plays one turn.
-/

namespace CitedAnswers.Http

open CitedAnswers.Answering (Session Setup)

/-! ## Gates -/

/-- A text of visible ASCII characters, spaces and tabs. -/
def IsText (value : String) : Prop :=
  ∀ c ∈ value.toList, c = '\t' ∨ ' ' ≤ c ∧ c ≤ '~'

inductive Gate where
  | method
  | authorization
  | access
  | mediaType
  | body
  deriving DecidableEq, Repr

namespace Gate

/-- The order in which a request comes to the gates. -/
def place : Gate → Nat
  | method => 0
  | authorization => 1
  | access => 2
  | mediaType => 3
  | body => 4

def Opens (secret : Option String) (r : Request) : Gate → Prop
  | method => r.method = "POST"
  | authorization => ∀ field, r.headers.lookup "authorization" = some field → IsText field
  | access => isAuthorized secret (r.headers.lookup "authorization") = true
  | mediaType => ∀ value, r.headers.lookup "content-type" = some value →
      IsText value ∧ AnnouncesJson value.toList
  | body => ∃ request, Chat.Request.decoder.run (Text.decode r.body) = .ok request

/-- Whether a gate is the first that is not open. -/
def Decides (secret : Option String) (r : Request) (gate : Gate) : Prop :=
  (∀ g : Gate, g.place < gate.place → g.Opens secret r) ∧ ¬gate.Opens secret r

def Refuses (response : Response) : Gate → Prop
  | method => response.status = 405
  | authorization => response.status = 400
  | access => response.status = 403 ∧
      response.body = "\x7b\"detail\":\"Could not validate credentials\"\x7d"
  | mediaType => response.status = 415
  | body => response.status = 400

theorem forall_opens_or_exists_decides (secret : Option String) (r : Request) :
    (∀ gate : Gate, gate.Opens secret r) ∨ ∃ gate : Gate, gate.Decides secret r := by
  rw [or_iff_not_imp_left, not_forall]
  intro some
  obtain ⟨gate, closed, first⟩ :=
    (measure place).wf.has_min {gate : Gate | ¬gate.Opens secret r} some
  refine ⟨gate, ?_, closed⟩
  intro earlier before
  by_contra other
  exact first earlier other before

end Gate

/-! ## Checks

Each check passes exactly where its gate is open. -/

section Checks

variable {secret : Option String} {r : Request}

theorem isVisible_iff {value : String} : isVisible value = true ↔ IsText value := by
  simp [isVisible, IsText]

theorem readAuthorization_of_opens (opens : Gate.authorization.Opens secret r) :
    readAuthorization r = .ok (r.headers.lookup "authorization") := by
  unfold readAuthorization
  cases given : r.headers.lookup "authorization" with
  | none => rfl
  | some field => exact if_pos (isVisible_iff.mpr (opens field given))

theorem readAuthorization_of_not_opens (closed : ¬Gate.authorization.Opens secret r) :
    readAuthorization r = .error (.unreadableHeader "authorization") := by
  simp only [Gate.Opens, not_forall] at closed
  obtain ⟨field, given, unreadable⟩ := closed
  unfold readAuthorization
  rw [given]
  exact if_neg (mt isVisible_iff.mp unreadable)

theorem checkMediaType_of_opens (opens : Gate.mediaType.Opens secret r) :
    checkMediaType r = .ok () := by
  unfold checkMediaType
  cases given : r.headers.lookup "content-type" with
  | none => rfl
  | some value =>
    obtain ⟨text, announces⟩ := opens value given
    have passes := Bool.and_eq_true_iff.mpr
      ⟨isVisible_iff.mpr text, announcesJson_iff.mpr announces⟩
    exact if_pos passes

theorem checkMediaType_of_not_opens (closed : ¬Gate.mediaType.Opens secret r) :
    checkMediaType r = .error .wrongMediaType := by
  simp only [Gate.Opens, not_forall] at closed
  obtain ⟨value, given, other⟩ := closed
  unfold checkMediaType
  rw [given]
  refine if_neg (mt (fun passes => ?_) other)
  obtain ⟨text, json⟩ := Bool.and_eq_true_iff.mp passes
  exact ⟨isVisible_iff.mp text, announcesJson_iff.mp json⟩

theorem readBody_of_not_opens (closed : ¬Gate.body.Opens secret r) :
    ∃ error, readBody r = .error (.undecodable error) := by
  unfold readBody
  cases decoded : Chat.Request.decoder.run (Text.decode r.body) with
  | ok request => exact absurd ⟨request, decoded⟩ closed
  | error error => exact ⟨error, rfl⟩

/-! ## Admission -/

theorem admission_of_not_post (chat : Route.ofTarget? r.target = some .chat)
    (other : r.method ≠ "POST") : admission secret r = .error .wrongMethod := by
  unfold admission
  rw [chat]
  exact if_pos other

theorem admission_of_post (chat : Route.ofTarget? r.target = some .chat)
    (post : r.method = "POST") : admission secret r = (passChecks secret r).map .chat := by
  unfold admission
  rw [chat]
  exact if_neg (not_not_intro post)

theorem passChecks_eq : passChecks secret r =
    (readAuthorization r).bind fun field => (checkAccess secret field).bind fun _ =>
      (checkMediaType r).bind fun _ => readBody r := rfl

theorem passChecks_of_readable (opens : Gate.authorization.Opens secret r) :
    passChecks secret r = (checkAccess secret (r.headers.lookup "authorization")).bind fun _ =>
      (checkMediaType r).bind fun _ => readBody r := by
  rw [passChecks_eq, readAuthorization_of_opens opens]
  rfl

theorem passChecks_of_access (opens : Gate.authorization.Opens secret r)
    (access : Gate.access.Opens secret r) :
    passChecks secret r = (checkMediaType r).bind fun _ => readBody r := by
  have passed : checkAccess secret (r.headers.lookup "authorization") = .ok () := if_pos access
  rw [passChecks_of_readable opens, passed]
  rfl

theorem passChecks_of_mediaType (opens : Gate.authorization.Opens secret r)
    (access : Gate.access.Opens secret r) (mediaType : Gate.mediaType.Opens secret r) :
    passChecks secret r = readBody r := by
  rw [passChecks_of_access opens access, checkMediaType_of_opens mediaType]
  rfl

theorem admission_of_decides (chat : Route.ofTarget? r.target = some .chat) {gate : Gate}
    (decides : gate.Decides secret r) :
    ∃ rejection, admission secret r = .error rejection ∧ gate.Refuses rejection.response := by
  obtain ⟨before, closed⟩ := decides
  -- At each gate the checks before it have passed, so its own check is the one that is made next.
  cases gate with
  | method => exact ⟨.wrongMethod, admission_of_not_post chat closed, rfl⟩
  | authorization =>
    refine ⟨.unreadableHeader "authorization", ?_, rfl⟩
    rw [admission_of_post chat (before .method (by decide)), passChecks_eq,
      readAuthorization_of_not_opens closed]
    rfl
  | access =>
    refine ⟨.noAccess, ?_, rfl, by decide⟩
    have refused : checkAccess secret (r.headers.lookup "authorization") = .error .noAccess :=
      if_neg closed
    rw [admission_of_post chat (before .method (by decide)),
      passChecks_of_readable (before .authorization (by decide)), refused]
    rfl
  | mediaType =>
    refine ⟨.wrongMediaType, ?_, rfl⟩
    rw [admission_of_post chat (before .method (by decide)),
      passChecks_of_access (before .authorization (by decide)) (before .access (by decide)),
      checkMediaType_of_not_opens closed]
    rfl
  | body =>
    obtain ⟨error, undecodable⟩ := readBody_of_not_opens closed
    refine ⟨.undecodable error, ?_, rfl⟩
    rw [admission_of_post chat (before .method (by decide)),
      passChecks_of_mediaType (before .authorization (by decide)) (before .access (by decide))
        (before .mediaType (by decide)), undecodable]
    rfl

theorem admission_of_opens (chat : Route.ofTarget? r.target = some .chat)
    (opens : ∀ gate : Gate, gate.Opens secret r) :
    ∃ request, Chat.Request.decoder.run (Text.decode r.body) = .ok request ∧
      admission secret r = .ok (.chat request) := by
  obtain ⟨request, decoded⟩ := opens .body
  have read : readBody r = .ok request := by
    rw [readBody, decoded]
  refine ⟨request, decoded, ?_⟩
  rw [admission_of_post chat (opens .method),
    passChecks_of_mediaType (opens .authorization) (opens .access) (opens .mediaType), read]
  rfl

end Checks

/-! ## Responses -/

theorem status_completionResponse (model : String) (e : Answering.Ending) :
    (completionResponse model e).status = 200 ∧ (∃ answer, e.reply = .ok answer) ∨
      (completionResponse model e).status = 500 ∧ ∃ error, e.reply = .error error := by
  unfold completionResponse
  cases reply : e.reply with
  | ok answer => exact .inl ⟨rfl, answer, rfl⟩
  | error error => exact .inr ⟨rfl, error, rfl⟩

/-- All gates are open to a request for an answer, or one of them decides.  A gate that decides
tells what is responded, and nothing else comes of the request.  If all gates are open, the request
plays one turn, and is responded what comes of it. -/
theorem respond_of_gates {σ : Type} (site : Site σ) (s : Session σ) {r : Request}
    (chat : Route.ofTarget? r.target = some .chat) :
    ((∀ gate : Gate, gate.Opens site.secret r) ∨ ∃ gate : Gate, gate.Decides site.secret r) ∧
    (∀ gate : Gate, gate.Decides site.secret r →
      gate.Refuses (site.respond s r).response ∧ (site.respond s r).exchanges = [] ∧
        (site.respond s r).session = s) ∧
    ((∀ gate : Gate, gate.Opens site.secret r) →
      ∃ request, Chat.Request.decoder.run (Text.decode r.body) = .ok request ∧
        let played := s.turn site.setup request.messages
        (site.respond s r).exchanges = played.exchanges ∧
        (site.respond s r).session = played.session ∧
        ((site.respond s r).response.status = 200 ∧ (∃ answer, played.ending.reply = .ok answer) ∨
          (site.respond s r).response.status = 500 ∧
            ∃ error, played.ending.reply = .error error)) := by
  refine ⟨Gate.forall_opens_or_exists_decides site.secret r, ?_, ?_⟩
  · intro gate decides
    obtain ⟨rejection, rejected, refuses⟩ := admission_of_decides chat decides
    have responded : site.respond s r = ⟨rejection.response, [], s⟩ := by
      rw [Site.respond, rejected]
    rw [responded]
    exact ⟨refuses, rfl, rfl⟩
  · intro opens
    obtain ⟨request, decoded, admitted⟩ := admission_of_opens chat opens
    have responded : site.respond s r = site.serve s (.chat request) := by
      rw [Site.respond, admitted]
    refine ⟨request, decoded, ?_⟩
    rw [responded]
    exact ⟨rfl, rfl, status_completionResponse request.model _⟩

/-- What services say that have too much to do. -/
def busy : Answering.ServiceError :=
  .status "presidio-analyzer" 503 "busy"

/-- A site with a secret, whose services have too much to do. -/
def guarded : Site Unit where
  setup := ⟨fun _ memory => (.error busy, memory), ⟨"en", 3, Chat.defaultTemperature⟩, .enabled⟩
  secret := some "k"
  modelId := "m"

/-- A request that has no access, announces no JSON and holds none. -/
def wrongThroughout : Request where
  method := "POST"
  target := "/chat/completions/?x"
  headers := [("content-type", "text/plain"), ("authorization", "Bearer")]
  body := []

theorem respond_of_gates_access :
    Route.ofTarget? wrongThroughout.target = some .chat ∧
      Gate.access.Decides guarded.secret wrongThroughout ∧
      (guarded.respond ⟨(), .vacant, .empty⟩ wrongThroughout).response.status = 403 ∧
      (guarded.respond ⟨(), .vacant, .empty⟩ wrongThroughout).exchanges = [] := by
  have chat : Route.ofTarget? wrongThroughout.target = some .chat := by decide
  have decides : Gate.access.Decides guarded.secret wrongThroughout := by
    constructor
    · intro g earlier
      cases g with
      | method => rfl
      | authorization =>
        intro field given
        cases given
        exact isVisible_iff.mp (by decide)
      | access | mediaType | body => exact absurd earlier (by decide)
    · exact ne_true_of_eq_false (by decide)
  obtain ⟨-, refused, -⟩ := respond_of_gates guarded ⟨(), .vacant, .empty⟩ chat
  obtain ⟨⟨status, -⟩, unasked, -⟩ := refused _ decides
  exact ⟨chat, decides, status, unasked⟩

/-- A request with access whose body is announced under a media type that has a suffix. -/
def suffixed : Request where
  method := "POST"
  target := "/chat/completions"
  headers := [("authorization", "Bearer k"), ("content-type", "application/json+xml")]
  body := "\x7b\"model\":\"m\",\"messages\":[]\x7d".toList.map fun c => c.toNat.toUInt8

/-- A media type other than `application/json` is not always refused. -/
theorem answers_suffixed_mediaType :
    ¬∀ (site : Site Unit) (s : Session Unit) (r : Request) (value : String),
      Route.ofTarget? r.target = some .chat → Gate.method.Opens site.secret r →
      Gate.authorization.Opens site.secret r → Gate.access.Opens site.secret r →
      r.headers.lookup "content-type" = some value →
      lowered (value.toList.takeWhile (· ≠ ';')) ≠ "application/json" →
      (site.respond s r).response.status = 415 := by
  intro always
  have readable : Gate.authorization.Opens guarded.secret suffixed := by
    intro field given
    cases given
    exact isVisible_iff.mp (by decide)
  have access : Gate.access.Opens guarded.secret suffixed :=
    show isAuthorized (some "k") (some "Bearer k") = true by decide
  have refused := always guarded ⟨(), .vacant, .empty⟩ suffixed "application/json+xml" (by decide)
    rfl readable access rfl (by decide)
  exact absurd refused (by decide)

end CitedAnswers.Http
