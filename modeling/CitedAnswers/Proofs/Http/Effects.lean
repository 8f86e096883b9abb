import CitedAnswers.Proofs.Http.Gates
import CitedAnswers.Proofs.Metrics.Counting

/-! # Which requests have effects

A request plays a turn exactly if it is answered: it came for an answer, and is responded one or the
error that kept it from one (`respond_cases`).  All others leave the session as it is, the memory of
the services included, so whether they were sent at all cannot be told from what comes behind them
(`respondAll_kept`).
-/

namespace CitedAnswers.Http

open CitedAnswers.Answering (Ending Exchange Session Setup)
open CitedAnswers.Metrics (total)

/-! ## Answered requests -/

/-- Whether a request came for an answer and got one, or the error in its place. -/
def isAnswered (r : Request) (response : Response) : Bool :=
  Route.ofTarget? r.target = some .chat && (response.status = 200 || response.status = 500)

theorem isAnswered_rejection (r : Request) (rejection : Rejection) :
    isAnswered r rejection.response = false := by
  cases rejection <;> simp [isAnswered, Rejection.response, Response.bare, Response.notice,
    Response.detail, Response.json]

theorem isAnswered_of_route {r : Request} (other : Route.ofTarget? r.target ≠ some .chat)
    (response : Response) : isAnswered r response = false := by
  simp [isAnswered, other]

theorem isAnswered_completionResponse {r : Request} (chat : Route.ofTarget? r.target = some .chat)
    (model : String) (e : Ending) : isAnswered r (completionResponse model e) = true := by
  rcases status_completionResponse model e with ⟨status, -⟩ | ⟨status, -⟩ <;>
    simp [isAnswered, chat, status]

theorem admission_cases (secret : Option String) (r : Request) :
    (∃ rejection, admission secret r = .error rejection) ∨
      (∃ request, Route.ofTarget? r.target = some .chat ∧
        admission secret r = .ok (.chat request)) ∨
      Route.ofTarget? r.target ≠ some .chat ∧
        (admission secret r = .ok .health ∨ admission secret r = .ok .models ∨
          admission secret r = .ok .metrics) := by
  unfold admission
  cases found : Route.ofTarget? r.target with
  | none => exact .inl ⟨_, rfl⟩
  | some route =>
    by_cases method : r.method = route.method
    · simp only [method, ne_eq, not_true, if_false]
      cases route with
      | health | models | metrics => simp
      | chat =>
        cases passed : passChecks secret r with
        | error rejection => exact .inl ⟨rejection, rfl⟩
        | ok request => exact .inr (.inl ⟨request, rfl, rfl⟩)
    · exact .inl ⟨_, if_pos method⟩

/-! ## One request -/

variable {σ : Type}

/-- A request is answered and counted once, or it has no effect at all. -/
theorem respond_cases (site : Site σ) (s : Session σ) (r : Request) :
    (isAnswered r (site.respond s r).response = true ∧
        ∃ e, (site.respond s r).session.tally = s.tally.count e) ∨
      (isAnswered r (site.respond s r).response = false ∧ (site.respond s r).exchanges = [] ∧
        (site.respond s r).session = s) := by
  rcases admission_cases site.secret r with ⟨rejection, rejected⟩ | ⟨request, chat, admitted⟩ |
    ⟨other, admitted⟩
  · simp [Site.respond, rejected, isAnswered_rejection]
  · simp only [Site.respond, admitted, Site.serve, isAnswered_completionResponse chat]
    exact .inl ⟨trivial, _, rfl⟩
  · rw [isAnswered_of_route other]
    rcases admitted with admitted | admitted | admitted <;>
      simp [Site.respond, admitted, Site.serve]

/-! ## Sequences of requests -/

/-- The entries that are marked. -/
def kept {α : Type} : (marks : List Bool) → List α → List α
  | true :: marks, a :: rest => a :: kept marks rest
  | false :: marks, _ :: rest => kept marks rest
  | _, _ => []

/-- Requests that are not answered can be left out: nothing else changes. -/
theorem respondAll_kept (site : Site σ) {requests : List Request} {s : Session σ}
    {marks : List Bool}
    (unanswered : ∀ (n : Nat) r served, marks[n]? = some false → requests[n]? = some r →
      (site.respondAll requests s)[n]? = some served → isAnswered r served.response = false) :
    site.respondAll (kept marks requests) s = kept marks (site.respondAll requests s) := by
  induction requests generalizing s marks with
  | nil => cases marks with
    | nil => rfl
    | cons mark marks => cases mark <;> rfl
  | cons r rest ih =>
    cases marks with
    | nil => rfl
    | cons mark marks =>
      have behind := @ih (site.respond s r).session marks fun n => unanswered (n + 1)
      cases mark with
      | true => simp [kept, Site.respondAll, behind]
      | false =>
        -- The session that a request left out would have left is the one it came to.
        have silent := unanswered 0 r (site.respond s r) rfl rfl rfl
        rcases respond_cases site s r with ⟨answered, -⟩ | ⟨-, -, same⟩
        · simp [silent] at answered
        · rw [same] at behind
          simp [kept, Site.respondAll, behind, same]

theorem unanswered_of_respondAll (site : Site σ) {requests : List Request} {s : Session σ} {n : Nat}
    {r : Request} {served : Served σ} {before : Session σ} (request : requests[n]? = some r)
    (here : (site.respondAll requests s)[n]? = some served)
    (came : (s :: (site.respondAll requests s).map Served.session)[n]? = some before)
    (silent : isAnswered r served.response = false) :
    served.exchanges = [] ∧ served.session = before := by
  induction requests generalizing s n with
  | nil => cases request
  | cons first rest ih =>
    cases n with
    | zero =>
      cases request
      cases here
      cases came
      rcases respond_cases site before r with ⟨answered, -⟩ | ⟨-, unasked, same⟩
      · simp [silent] at answered
      · exact ⟨unasked, same⟩
    | succ n => exact ih request here came

/-- How many requests were answered. -/
def answeredCount (entries : List (Request × Served σ)) : Nat :=
  entries.countP fun entry => isAnswered entry.1 entry.2.response

/-- The counts grow by the requests that are answered. -/
theorem total_respondAll (site : Site σ) {requests : List Request} {s : Session σ} {n : Nat}
    {now : Session σ}
    (here : (s :: (site.respondAll requests s).map Served.session)[n]? = some now) :
    let expected := total s.tally.outcomes +
      answeredCount ((requests.zip (site.respondAll requests s)).take n)
    total now.tally.outcomes % 2 ^ 64 = expected % 2 ^ 64 ∧
      (expected < 2 ^ 64 → total now.tally.outcomes = expected) := by
  induction requests generalizing s n with
  | nil =>
    cases n with
    | zero => simp_all [answeredCount]
    | succ n => simp [Site.respondAll] at here
  | cons r rest ih =>
    cases n with
    | zero => simp_all [answeredCount]
    | succ n =>
      have behind := @ih (site.respond s r).session n here
      simp only [Site.respondAll, List.zip_cons_cons, List.take_succ_cons, answeredCount,
        List.countP_cons] at behind ⊢
      rcases respond_cases site s r with ⟨answered, e, tallied⟩ | ⟨silent, -, same⟩
      · simp only [answered, if_true]
        have grown : total (s.tally.count e).outcomes % 2 ^ 64 =
            (total s.tally.outcomes + 1) % 2 ^ 64 :=
          Metrics.total_increment_mod e.outcome s.tally.outcomes
        rw [tallied] at behind
        obtain ⟨wrapped, counted⟩ := behind
        refine ⟨by omega, fun few => ?_⟩
        have one : total (s.tally.count e).outcomes = total s.tally.outcomes + 1 :=
          Metrics.total_increment e.outcome (by omega)
        rw [one] at counted
        omega
      · simp only [same, silent] at behind ⊢
        exact behind

/-- A request that is not answered makes no calls and leaves the log, the tally and all else as it
is; the counts, which are words, grow by the requests that are answered; and leaving out any
requests that are not answered changes nothing about the others. -/
theorem effects_of_requests (site : Site σ) (requests : List Request) (s : Session σ) :
    let served := site.respondAll requests s
    let sessions := s :: served.map Served.session
    (∀ (n : Nat) r one before, requests[n]? = some r → served[n]? = some one →
      sessions[n]? = some before → isAnswered r one.response = false →
      one.exchanges = [] ∧ one.session = before) ∧
    (∀ (n : Nat) now, sessions[n]? = some now →
      let expected := total s.tally.outcomes + answeredCount ((requests.zip served).take n)
      total now.tally.outcomes % 2 ^ 64 = expected % 2 ^ 64 ∧
        (expected < 2 ^ 64 → total now.tally.outcomes = expected)) ∧
    ∀ marks : List Bool,
      (∀ (n : Nat) r one, marks[n]? = some false → requests[n]? = some r → served[n]? = some one →
        isAnswered r one.response = false) →
      site.respondAll (kept marks requests) s = kept marks served := by
  refine ⟨?_, ?_, ?_⟩
  · intro n r one before request here came silent
    exact unanswered_of_respondAll site request here came silent
  · intro n now here
    exact total_respondAll site here
  · intro marks unanswered
    exact respondAll_kept site unanswered

/-- A request for the counts. -/
def forCounts : Request where
  method := "GET"
  target := "/metrics"
  headers := []
  body := []

theorem effects_of_requests_left_out :
    (∃ now, (guarded.respondAll [wrongThroughout, suffixed, forCounts]
        ⟨(), .vacant, .empty⟩)[2]? = some now ∧ total now.session.tally.outcomes = 1) ∧
      guarded.respondAll [suffixed, forCounts] ⟨(), .vacant, .empty⟩ =
        (guarded.respondAll [wrongThroughout, suffixed, forCounts] ⟨(), .vacant, .empty⟩).tail := by
  obtain ⟨-, counted, left⟩ := effects_of_requests guarded [wrongThroughout, suffixed, forCounts]
    ⟨(), .vacant, .empty⟩
  refine ⟨⟨_, rfl, ?_⟩, left [false, true, true] ?_⟩
  · obtain ⟨-, below⟩ := counted 3 _ rfl
    exact (below (by decide)).trans (by decide)
  · intro n r one mark request here
    cases n with
    | zero =>
      cases request
      cases here
      decide
    | succ n => rcases n with _ | _ | n <;> cases mark

end CitedAnswers.Http
