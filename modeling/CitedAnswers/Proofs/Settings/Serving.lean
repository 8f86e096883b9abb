import CitedAnswers.Proofs.Http.Access
import CitedAnswers.Proofs.Http.Gates
import CitedAnswers.Proofs.Remote.Refinement

/-! # Serving with settings

A site that is set up by settings asks for their secret, and for none if it is empty
(`opens_access_site_iff`).  Over any transport it serves requests as it does over services that are
told the outcome of each call beforehand (`respondAll_refine`): a request that plays a turn takes
the outcomes of its own calls, and any other request takes none.

The induction is on the requests.  One request leaves what is told for later ones as it is
(`respond_refine`), whatever it is responded.
-/

namespace CitedAnswers.Settings

open CitedAnswers.Answering (Call Exchange Session)
open CitedAnswers.Exchanges (Spot)
open CitedAnswers.Http (Admitted BeginsAsBearer Gate Request Response Site admission bearer)
open CitedAnswers.Metrics (Tally)
open CitedAnswers.Remote (Delivery Reply Transport)
open CitedAnswers.Text (Charsets)

variable {σ : Type}

/-! ## The secret -/

theorem effectiveSecret_eq_some_iff {s : Settings} {secret : String} :
    s.effectiveSecret = some secret ↔ s.secret = some secret ∧ secret ≠ "" := by
  simp [effectiveSecret, Option.filter_eq_some_iff]

/-- Everyone has access to a site whose settings have no secret or an empty one; otherwise a request
has to carry the secret. -/
theorem opens_access_site_iff (s : Settings) (charsets : Charsets) (transport : Transport σ)
    (r : Request) :
    Gate.access.Opens (s.site charsets transport).secret r ↔
      ∀ secret, s.secret = some secret → secret ≠ "" →
        ∃ field, r.headers.lookup "authorization" = some field ∧
          (field = bearer ++ secret ∨ field = secret ∧ ¬BeginsAsBearer secret) := by
  change Http.isAuthorized s.effectiveSecret (r.headers.lookup "authorization") = true ↔ _
  cases asked : s.effectiveSecret with
  | none =>
    refine iff_of_true rfl fun secret given notEmpty => ?_
    have some := effectiveSecret_eq_some_iff.mpr ⟨given, notEmpty⟩
    cases asked.symm.trans some
  | some secret =>
    obtain ⟨given, notEmpty⟩ := effectiveSecret_eq_some_iff.mp asked
    cases carried : r.headers.lookup "authorization" with
    | none =>
      refine iff_of_false Bool.false_ne_true fun asks => ?_
      obtain ⟨field, carries, -⟩ := asks secret given notEmpty
      cases carries
    | some field =>
      rw [Http.isAuthorized_some_iff]
      constructor
      · intro authorized other given' _
        cases given.symm.trans given'
        exact ⟨field, rfl, authorized⟩
      · intro asks
        obtain ⟨_, carries, authorized⟩ := asks secret given notEmpty
        cases carries
        exact authorized

/-! ## Requests -/

/-- The site of these settings, where the outcome of each call is told. -/
def scriptedSite (s : Settings) (charsets : Charsets) : Site (List (Option Reply)) where
  setup := Remote.scriptedSetup s charsets
  secret := s.effectiveSecret
  modelId := s.modelId

/-- What is seen of a request that was served: what it was responded, the calls with their replies,
and the log and the tally afterwards. -/
structure Sight where
  response : Response
  exchanges : List Exchange
  spot : Spot
  tally : Tally

def sight (served : Http.Served σ) : Sight :=
  ⟨served.response, served.exchanges, served.session.spot, served.session.tally⟩

def callsOf (served : List (Http.Served σ)) : List Call :=
  served.flatMap fun one => one.exchanges.map Exchange.call

section Requests

variable (charsets : Charsets) (s : Settings) (transport : Transport σ)

theorem serve_refine (admitted : Admitted) (memory : σ) (sent : List Delivery) (spot : Spot)
    (tally : Tally) :
    ∃ response exchanges deliveries outcomes left spot' tally',
      Remote.Served s (exchanges.map Exchange.call) deliveries outcomes ∧
      (s.site charsets transport.recording).serve ⟨(memory, sent), spot, tally⟩ admitted =
        ⟨response, exchanges, ⟨(left, sent ++ deliveries), spot', tally'⟩⟩ ∧
      (s.site charsets transport).serve ⟨memory, spot, tally⟩ admitted =
        ⟨response, exchanges, ⟨left, spot', tally'⟩⟩ ∧
      ∀ later, (s.scriptedSite charsets).serve ⟨outcomes ++ later, spot, tally⟩ admitted =
        ⟨response, exchanges, ⟨later, spot', tally'⟩⟩ := by
  cases admitted with
  | health | models | metrics =>
    refine ⟨_, [], [], [], memory, spot, tally, .nil, ?_, rfl, fun later => rfl⟩
    rw [List.append_nil]
    rfl
  | chat request =>
    obtain ⟨ending, exchanges, deliveries, outcomes, left, spot', tally', served, recorded, plain,
      told⟩ := Remote.turn_refine charsets s transport request.messages memory sent spot tally
    refine ⟨Http.completionResponse request.model ending, exchanges, deliveries, outcomes, left,
      spot', tally', served, ?_, ?_, fun later => ?_⟩
    · rw [Site.serve, site, recorded]
    · rw [Site.serve, site, plain]
    · rw [Site.serve, scriptedSite, told]

/-- A request is served over a transport as it is where the outcomes of its calls are told. -/
theorem respond_refine (r : Request) (memory : σ) (sent : List Delivery) (spot : Spot)
    (tally : Tally) :
    ∃ response exchanges deliveries outcomes left spot' tally',
      Remote.Served s (exchanges.map Exchange.call) deliveries outcomes ∧
      (s.site charsets transport.recording).respond ⟨(memory, sent), spot, tally⟩ r =
        ⟨response, exchanges, ⟨(left, sent ++ deliveries), spot', tally'⟩⟩ ∧
      (s.site charsets transport).respond ⟨memory, spot, tally⟩ r =
        ⟨response, exchanges, ⟨left, spot', tally'⟩⟩ ∧
      ∀ later, (s.scriptedSite charsets).respond ⟨outcomes ++ later, spot, tally⟩ r =
        ⟨response, exchanges, ⟨later, spot', tally'⟩⟩ := by
  -- All three sites ask for the same secret, so they admit the same requests.
  cases admits : admission s.effectiveSecret r with
  | ok admitted =>
    simp only [Site.respond, site, scriptedSite, admits]
    exact serve_refine charsets s transport admitted memory sent spot tally
  | error rejection =>
    simp only [Site.respond, site, scriptedSite, admits]
    refine ⟨rejection.response, [], [], [], memory, spot, tally, .nil, ?_, rfl, fun later => rfl⟩
    rw [List.append_nil]

/-- Requests that come after documents were sent, and with outcomes that are left for later. -/
theorem respondAll_refine_from (requests : List Request) (memory : σ) (sent : List Delivery)
    (spot : Spot) (tally : Tally) :
    let start : Session (σ × List Delivery) := ⟨(memory, sent), spot, tally⟩
    let served := (s.site charsets transport.recording).respondAll requests start
    ∃ deliveries outcomes,
      Remote.Served s (callsOf served) deliveries outcomes ∧
      (start :: served.map Http.Served.session).getLast?.map (·.memory.2) =
        some (sent ++ deliveries) ∧
      ((s.site charsets transport).respondAll requests ⟨memory, spot, tally⟩).map sight =
        served.map sight ∧
      ∀ later, ((s.scriptedSite charsets).respondAll requests
        ⟨outcomes ++ later, spot, tally⟩).map sight = served.map sight := by
  induction requests generalizing memory sent spot tally with
  | nil => exact ⟨[], [], .nil, congrArg some (List.append_nil sent).symm, rfl, fun later => rfl⟩
  | cons r rest ih =>
    obtain ⟨response, exchanges, deliveries, outcomes, left, spot', tally', served, recorded, plain,
      told⟩ := respond_refine charsets s transport r memory sent spot tally
    obtain ⟨deliveriesRest, outcomesRest, servedRest, after, plainRest, toldRest⟩ :=
      ih left (sent ++ deliveries) spot' tally'
    refine ⟨deliveries ++ deliveriesRest, outcomes ++ outcomesRest, ?_, ?_, ?_, fun later => ?_⟩
    · rw [Site.respondAll, recorded]
      exact served.append servedRest
    · rw [Site.respondAll, recorded, List.map_cons, List.getLast?_cons_cons, ← List.append_assoc]
      exact after
    · rw [Site.respondAll, Site.respondAll, recorded, plain]
      exact congrArg (_ :: ·) plainRest
    · rw [Site.respondAll, Site.respondAll, recorded, List.append_assoc, told]
      exact congrArg (_ :: ·) (toldRest later)

/-- Over any transport, requests are responded as they are over services that are told the outcome
of each call, after the same calls and replies, and leave the same log and the same tally.  The
documents that are handed to the transport carry the calls that can be sent, in order. -/
theorem respondAll_refine (requests : List Request) (memory : σ) (spot : Spot) (tally : Tally) :
    let start : Session (σ × List Delivery) := ⟨(memory, []), spot, tally⟩
    let served := (s.site charsets transport.recording).respondAll requests start
    ∃ deliveries outcomes,
      Remote.Served s (callsOf served) deliveries outcomes ∧
      (start :: served.map Http.Served.session).getLast?.map (·.memory.2) = some deliveries ∧
      ((s.site charsets transport).respondAll requests ⟨memory, spot, tally⟩).map sight =
        served.map sight ∧
      ((s.scriptedSite charsets).respondAll requests ⟨outcomes, spot, tally⟩).map sight =
        served.map sight := by
  intro start served
  obtain ⟨deliveries, outcomes, carried, after, plain, told⟩ :=
    respondAll_refine_from charsets s transport requests memory [] spot tally
  have told := told []
  rw [List.append_nil] at told
  exact ⟨deliveries, outcomes, carried, after, plain, told⟩

end Requests

end CitedAnswers.Settings
