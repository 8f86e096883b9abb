import CitedAnswers.Proofs.Answering.Series
import CitedAnswers.Proofs.Remote.Requests

/-! # Services at a distance as services

A program that the settings set up over a transport answers as it does over services that are told
the outcome of each call beforehand (`scripted`): turn by turn it ends in the same way after the
same calls and replies, and leaves the same log and the same tally (`turnsAmid_refine`).  What it
hands to the transport meanwhile is one request for each call that can be sent, in order (`Served`).
Refusals are read by the same character sets on both sides, whatever those are.

The induction is on a dialogue: one call takes the outcomes of one call (`serve_call`), whatever
outcomes are left for later.
-/

namespace CitedAnswers.Remote

open CitedAnswers.Answering (Call Course Dialogue Exchange Played Services Session Setup Ending)
open CitedAnswers.Chat (Message)
open CitedAnswers.Exchanges (Log Spot)
open CitedAnswers.Metrics (Tally)
open CitedAnswers.Text (Charsets)

variable {σ : Type}

/-! ## Requests and outcomes -/

/-- A request that was handed to a transport, and the reply to it, if there was one. -/
structure Delivery where
  posting : Posting
  outcome : Option Reply
  deriving DecidableEq, Repr

/-- A transport with a memory of all that was handed to it, in order. -/
def Transport.recording (transport : Transport σ) : Transport (σ × List Delivery) :=
  fun posting (memory, sent) =>
    let (outcome, memory) := transport posting memory
    (outcome, memory, sent ++ [⟨posting, outcome⟩])

/-- Services that are told what comes of each call, in order. -/
def scripted (charsets : Charsets) : Services (List (Option Reply))
  | call, outcome :: later => (outcomeOf charsets call outcome, later)
  | _, [] => (.error lostOnTheWay, [])

/-- Calls with the requests that carry them and with their outcomes: one request for each call that
can be sent, in order, and its reply is the outcome of the call. -/
inductive Served (s : Settings) : List Call → List Delivery → List (Option Reply) → Prop where
  | nil : Served s [] [] []
  | unsent {call : Call} {calls : List Call} {deliveries : List Delivery}
      {outcomes : List (Option Reply)} (canNotSend : ¬CanSend s call)
      (rest : Served s calls deliveries outcomes) :
      Served s (call :: calls) deliveries (none :: outcomes)
  | sent {call : Call} {calls : List Call} {delivery : Delivery} {deliveries : List Delivery}
      {outcomes : List (Option Reply)} (canSend : CanSend s call)
      (carries : Carries s call delivery.posting) (rest : Served s calls deliveries outcomes) :
      Served s (call :: calls) (delivery :: deliveries) (delivery.outcome :: outcomes)

theorem Served.append {s : Settings} {calls calls' : List Call}
    {deliveries deliveries' : List Delivery} {outcomes outcomes' : List (Option Reply)}
    (first : Served s calls deliveries outcomes) (second : Served s calls' deliveries' outcomes') :
    Served s (calls ++ calls') (deliveries ++ deliveries') (outcomes ++ outcomes') := by
  induction first with
  | nil => exact second
  | unsent canNotSend _ ih => exact .unsent canNotSend ih
  | sent canSend carries _ ih => exact .sent canSend carries ih

/-! ## Dialogues -/

section Dialogues

variable (charsets : Charsets)

theorem services_of_posting {a : Accounts} {call : Call} {posting : Posting}
    (posted : a.posting? call = some posting) (transport : Transport σ) (memory : σ) :
    services charsets a transport call memory =
      (outcomeOf charsets call (transport posting memory).1, (transport posting memory).2) := by
  rw [services, posted, exchange]
  generalize transport posting memory = delivered
  obtain ⟨outcome, left⟩ := delivered
  cases outcome with
  | none => rfl
  | some r => rw [outcomeOf_some]

theorem services_of_no_posting {a : Accounts} {call : Call}
    (unposted : a.posting? call = none) (transport : Transport σ) (memory : σ) :
    services charsets a transport call memory = (outcomeOf charsets call none, memory) := by
  rw [services, unposted]
  rfl

/-- A call comes to the value that a reply holds which was served. -/
theorem services_of_decoded {a : Accounts} {call : Call} {posting : Posting}
    {transport : Transport σ} {memory left : σ} {r : Reply} {value : call.Value}
    (posted : a.posting? call = some posting) (replied : transport posting memory = (some r, left))
    (served : 200 ≤ r.status ∧ r.status ≤ 299)
    (decoded : decoded? call (Text.decode r.body) = some value) :
    services charsets a transport call memory = (.ok value, left) := by
  rw [services_of_posting charsets posted, replied, outcomeOf, decoded]
  exact congrArg (·, left) (if_pos served)

/-- What is handed to a transport are the postings of the calls, in order. -/
theorem postings_of_run {α : Type} (a : Accounts) (transport : Transport σ) (d : Dialogue α)
    (memory : σ) (sent : List Delivery) :
    let course := d.run (services charsets a transport.recording) (memory, sent)
    course.memory.2.map Delivery.posting =
      sent.map Delivery.posting ++ course.calls.filterMap a.posting? := by
  induction d generalizing memory sent with
  | done result => exact (List.append_nil _).symm
  | ask call next ih =>
    intro course
    cases posted : a.posting? call with
    | none =>
      have unsent := services_of_no_posting charsets posted transport.recording (memory, sent)
      have later := ih (outcomeOf charsets call none) memory sent
      simpa [course, Course.calls, Dialogue.run, unsent, posted] using later
    | some posting =>
      have handed := services_of_posting charsets posted transport.recording (memory, sent)
      have later := ih (outcomeOf charsets call (transport posting memory).1)
        (transport posting memory).2 (sent ++ [⟨posting, (transport posting memory).1⟩])
      simpa [course, Course.calls, Dialogue.run, handed, posted, Transport.recording] using later

variable (s : Settings) (transport : Transport σ)

/-- A call over a transport comes to what the outcome of the call makes of it. -/
theorem serve_call (call : Call) (memory : σ) (sent : List Delivery) :
    ∃ deliveries outcome left,
      Served s [call] deliveries [outcome] ∧
      services charsets s.accounts transport.recording call (memory, sent) =
        (outcomeOf charsets call outcome, left, sent ++ deliveries) ∧
      services charsets s.accounts transport call memory =
        (outcomeOf charsets call outcome, left) := by
  by_cases canSend : CanSend s call
  · obtain ⟨posting, posted, carries⟩ := posting?_of_canSend canSend
    exact ⟨[⟨posting, (transport posting memory).1⟩], _, _, .sent canSend carries .nil,
      services_of_posting charsets posted transport.recording (memory, sent),
      services_of_posting charsets posted transport memory⟩
  · have unposted := posting?_of_not_canSend canSend
    refine ⟨[], none, memory, .unsent canSend .nil, ?_,
      services_of_no_posting charsets unposted transport memory⟩
    rw [List.append_nil]
    exact services_of_no_posting charsets unposted transport.recording (memory, sent)

/-- A dialogue over a transport runs as it does over services that are told the outcomes. -/
theorem run_refine {α : Type} (d : Dialogue α) (memory : σ) (sent : List Delivery) :
    ∃ result exchanges deliveries outcomes left,
      Served s (exchanges.map Exchange.call) deliveries outcomes ∧
      d.run (services charsets s.accounts transport.recording) (memory, sent) =
        ⟨result, exchanges, left, sent ++ deliveries⟩ ∧
      d.run (services charsets s.accounts transport) memory = ⟨result, exchanges, left⟩ ∧
      ∀ later, d.run (scripted charsets) (outcomes ++ later) = ⟨result, exchanges, later⟩ := by
  -- Where the first call leaves the transport differs from run to run, so memory and requests stay
  -- general.
  induction d generalizing memory sent with
  | done result =>
    refine ⟨result, [], [], [], memory, .nil, ?_, rfl, fun later => rfl⟩
    rw [List.append_nil]
    rfl
  | ask call next ih =>
    obtain ⟨first, outcome, between, served, recorded, plain⟩ :=
      serve_call charsets s transport call memory sent
    obtain ⟨result, exchanges, deliveries, outcomes, left, servedRest, recordedRest, plainRest,
      scriptedRest⟩ := ih (outcomeOf charsets call outcome) between (sent ++ first)
    refine ⟨result, ⟨call, outcomeOf charsets call outcome⟩ :: exchanges, first ++ deliveries,
      outcome :: outcomes, left, served.append servedRest, ?_, ?_, fun later => ?_⟩
    · rw [Dialogue.run, recorded]
      dsimp only
      rw [recordedRest, List.append_assoc]
    · rw [Dialogue.run, plain]
      dsimp only
      rw [plainRest]
    · rw [List.cons_append, Dialogue.run, scripted]
      dsimp only
      rw [scriptedRest]

end Dialogues

/-! ## Turns -/

/-- What is seen of a turn: how it ended, its calls with their replies, and the log and the tally
afterwards. -/
structure Outline where
  ending : Ending
  exchanges : List Exchange
  spot : Spot
  tally : Tally

def outline (played : Played σ) : Outline :=
  ⟨played.ending, played.exchanges, played.session.spot, played.session.tally⟩

def calls (turns : List (Played σ)) : List Call :=
  turns.flatMap fun played => played.exchanges.map Exchange.call

/-- The session after turns that began with `start`. -/
def sessionAfter (start : Session σ) (turns : List (Played σ)) : Session σ :=
  (turns.getLast?.map Played.session).getD start

theorem sessionAfter_cons (start : Session σ) (played : Played σ) (turns : List (Played σ)) :
    sessionAfter start (played :: turns) = sessionAfter played.session turns := by
  unfold sessionAfter
  rw [List.getLast?_cons]
  cases turns.getLast? <;> rfl

/-- How turns are answered with these settings, where the outcome of each call is told. -/
def scriptedSetup (s : Settings) (charsets : Charsets) : Setup (List (Option Reply)) where
  services := scripted charsets
  manner := ⟨s.language, s.topK, s.temperature⟩
  log := if s.effectiveLogPath.isSome then .enabled else .disabled

section Turns

variable (charsets : Charsets) (s : Settings) (transport : Transport σ)

theorem turn_refine (conversation : List Message) (memory : σ) (sent : List Delivery) (spot : Spot)
    (tally : Tally) :
    ∃ ending exchanges deliveries outcomes left spot' tally',
      Served s (exchanges.map Exchange.call) deliveries outcomes ∧
      Session.turn (s.setup charsets transport.recording) conversation
          ⟨(memory, sent), spot, tally⟩ =
        ⟨ending, exchanges, ⟨(left, sent ++ deliveries), spot', tally'⟩⟩ ∧
      Session.turn (s.setup charsets transport) conversation ⟨memory, spot, tally⟩ =
        ⟨ending, exchanges, ⟨left, spot', tally'⟩⟩ ∧
      ∀ later, Session.turn (scriptedSetup s charsets) conversation
          ⟨outcomes ++ later, spot, tally⟩ =
        ⟨ending, exchanges, ⟨later, spot', tally'⟩⟩ := by
  obtain ⟨ending, exchanges, deliveries, outcomes, left, served, recorded, plain, told⟩ :=
    run_refine charsets s transport (Answering.answer s.manner conversation) memory sent
  -- Log and tally are what the ending makes of them, whatever the services remember.
  refine ⟨ending, exchanges, deliveries, outcomes, left,
    (Session.enter s.log ending ⟨(), spot, tally⟩).spot,
    (Session.enter s.log ending ⟨(), spot, tally⟩).tally, served, ?_, ?_, fun later => ?_⟩
  · unfold Session.turn Session.play Settings.setup
    rw [recorded]
    rfl
  · unfold Session.turn Session.play Settings.setup
    rw [plain]
    rfl
  · unfold Session.turn Session.play
    rw [show Answering.answer (scriptedSetup s charsets).manner conversation =
      Answering.answer s.manner conversation from rfl]
    rw [show (scriptedSetup s charsets).services = scripted charsets from rfl, told later]
    rfl

/-- Turns that begin with requests sent already, and with outcomes that are left for later. -/
theorem turnsAmid_refine_from (steps : List (List Message × (Spot → Spot))) (memory : σ)
    (sent : List Delivery) (spot : Spot) (tally : Tally) :
    let start : Session (σ × List Delivery) := ⟨(memory, sent), spot, tally⟩
    let remote := Session.turnsAmid (s.setup charsets transport.recording) steps start
    ∃ deliveries outcomes,
      Served s (calls remote) deliveries outcomes ∧
      (sessionAfter start remote).memory.2 = sent ++ deliveries ∧
      (Session.turnsAmid (s.setup charsets transport) steps ⟨memory, spot, tally⟩).map outline =
        remote.map outline ∧
      ∀ later, (Session.turnsAmid (scriptedSetup s charsets) steps
        ⟨outcomes ++ later, spot, tally⟩).map outline = remote.map outline := by
  induction steps generalizing memory sent spot tally with
  | nil => exact ⟨[], [], .nil, (List.append_nil sent).symm, rfl, fun later => rfl⟩
  | cons step rest ih =>
    obtain ⟨conversation, change⟩ := step
    obtain ⟨ending, exchanges, deliveries, outcomes, left, spot', tally', served, recorded, plain,
      told⟩ := turn_refine charsets s transport conversation memory sent (change spot) tally
    obtain ⟨deliveriesRest, outcomesRest, servedRest, after, plainRest, toldRest⟩ :=
      ih left (sent ++ deliveries) spot' tally'
    refine ⟨deliveries ++ deliveriesRest, outcomes ++ outcomesRest, ?_, ?_, ?_, fun later => ?_⟩
    · rw [Session.turnsAmid, recorded]
      exact served.append servedRest
    · rw [Session.turnsAmid, recorded, sessionAfter_cons, ← List.append_assoc]
      exact after
    · rw [Session.turnsAmid, Session.turnsAmid, recorded, plain]
      exact congrArg (_ :: ·) plainRest
    · rw [Session.turnsAmid, Session.turnsAmid, recorded, List.append_assoc, told]
      exact congrArg (_ :: ·) (toldRest later)

/-- Over any transport, turns end as they do over services that are told the outcome of each call,
with the same calls and replies, and leave the same log and the same tally.  The requests that are
handed to the transport are those that carry the calls that can be sent, in order, and an outcome is
the reply to its request. -/
theorem turnsAmid_refine (steps : List (List Message × (Spot → Spot))) (memory : σ) (spot : Spot)
    (tally : Tally) :
    let start : Session (σ × List Delivery) := ⟨(memory, []), spot, tally⟩
    let remote := Session.turnsAmid (s.setup charsets transport.recording) steps start
    ∃ outcomes,
      Served s (calls remote) (sessionAfter start remote).memory.2 outcomes ∧
      (Session.turnsAmid (s.setup charsets transport) steps ⟨memory, spot, tally⟩).map outline =
        remote.map outline ∧
      (Session.turnsAmid (scriptedSetup s charsets) steps ⟨outcomes, spot, tally⟩).map outline =
        remote.map outline := by
  intro start remote
  obtain ⟨deliveries, outcomes, served, after, plain, told⟩ :=
    turnsAmid_refine_from charsets s transport steps memory [] spot tally
  -- Nothing was sent before, and no outcome is left for later.
  have told := told []
  rw [List.append_nil] at told
  refine ⟨outcomes, ?_, plain, told⟩
  rw [after]
  exact served

end Turns

def soundKey : Environment.Variables := [
  ("YQ_OPENAI_API_KEY", "sk-test"),
  ("YQ_PINECONE_API_KEY", "pc-test"),
  ("YQ_PINECONE_INDEX_HOST", "http://index")]

/-- A refusal that names no character set. -/
def overloaded : Reply where
  status := 503
  contentType := some "text/plain"
  body := "busy".toUTF8.toList

theorem turnsAmid_refine_overloaded :
    ∃ s, Settings.loadVariables soundKey = .ok s ∧
      let start : Session (Unit × List Delivery) := ⟨((), []), .vacant, Tally.empty⟩
      let steps : List (List Message × (Spot → Spot)) := [([.user "q"], id), ([.user "r"], id)]
      let remote := Session.turnsAmid (s.setup .utf8Only (always overloaded).recording) steps start
      remote.map Played.ending =
          List.replicate 2 (.redactionFailed (.status "presidio-analyzer" 503 "busy")) ∧
        ∃ outcomes,
          Served s (calls remote) (sessionAfter start remote).memory.2 outcomes ∧
          (Session.turnsAmid (scriptedSetup s .utf8Only) steps ⟨outcomes, .vacant, Tally.empty⟩).map
            outline = remote.map outline := by
  refine ⟨_, rfl, ?_⟩
  intro start steps remote
  obtain ⟨outcomes, served, -, told⟩ :=
    turnsAmid_refine .utf8Only _ (always overloaded) steps () .vacant Tally.empty
  refine ⟨?_, outcomes, served, told⟩
  decide +kernel

def brokenKey : Environment.Variables := [
  ("YQ_OPENAI_API_KEY", "sk\ntest"),
  ("YQ_OPENAI_BASE_URL", "http://models"),
  ("YQ_PINECONE_API_KEY", "pc-test"),
  ("YQ_PINECONE_INDEX_HOST", "http://index")]

/-- A transport that brings back empty lists only. -/
def emptyReplies : Transport Unit :=
  fun _ _ => (some ⟨200, none, [0x5B, 0x5D]⟩, ())

/-- With a key of two lines, the second of two calls is made without a request. -/
theorem call_without_request :
    ∃ s, Settings.loadVariables brokenKey = .ok s ∧
      let start : Session (Unit × List Delivery) := ⟨((), []), .vacant, Tally.empty⟩
      let remote :=
        Session.turnsAmid (s.setup .utf8Only emptyReplies.recording) [([.user "q"], id)] start
      (calls remote).length = 2 ∧
        (sessionAfter start remote).memory.2.map (fun d => d.posting.url) =
          ["http://localhost:5002/analyze"] := by
  refine ⟨_, rfl, ?_⟩
  decide +kernel

end CitedAnswers.Remote
