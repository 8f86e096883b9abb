import CitedAnswers.Answering.Session
import CitedAnswers.Proofs.Answering.Runs

/-! # The ways a turn can go

A turn decides after every reply whether and how it goes on.  `Way` lists where this can lead: one
case for each place at which a turn can end, with all the calls made up to there and what comes of
it (`Upshot`).  Each stage of a turn is characterised by its runs first (`redact_runs`,
`locate_runs`, `search_runs`, `compose_runs`), and the turn is their composition (`way_of_runs`,
`runs_of_way`).

The main statement is `turn_iff_way`: of all ways, a turn goes the one and only one that its
services reply to.
-/

namespace CitedAnswers.Answering

open CitedAnswers.Chat (Message lastUserText?)
open CitedAnswers.Number (Binary32)
open CitedAnswers.Sources (Citation Passage mayCite)

/-! ## The decisions -/

/-- What comes of a turn: what the user is told, the outcome that is counted, the number of
citations that are counted, and what is recorded. -/
structure Upshot where
  told : Except ServiceError String
  outcome : String
  cited : Nat
  recorded : Option Answered

def Ending.upshot (e : Ending) : Upshot :=
  ⟨e.reply, e.outcome, e.cited, e.record?⟩

/-- The upshot of a turn that ends with a fixed text. -/
def Upshot.apology (text outcome : String) : Upshot :=
  ⟨.ok text, outcome, 0, none⟩

/-- How a question loses its personal data: the exchanges, and the text that is safe or the error
that was met. -/
inductive Redacts (language question : String) : List Exchange → Except ServiceError String → Prop
  | unanalyzed (error : ServiceError) :
      Redacts language question [⟨.analyze question language, .error error⟩] (.error error)
  | clean :
      Redacts language question [⟨.analyze question language, .ok []⟩] (.ok question)
  | replaced (entities : List Json) (found : entities ≠ []) (reply : Except ServiceError String) :
      Redacts language question
        [⟨.analyze question language, .ok entities⟩, ⟨.anonymize question entities, reply⟩] reply

/-- A reply that holds at least one item. -/
def Holds {α : Type} (reply : Except ServiceError (List α)) (items : List α) : Prop :=
  reply = .ok items ∧ items ≠ []

section Holds

variable {α : Type} {reply : Except ServiceError (List α)}

def held? : Except ServiceError (List α) → Option (List α)
  | .ok (item :: items) => some (item :: items)
  | .ok [] => none
  | .error _ => none

theorem held?_eq_some {items : List α} : held? reply = some items ↔ Holds reply items := by
  unfold held? Holds
  constructor
  · intro held
    split at held
    · cases held
      exact ⟨rfl, List.cons_ne_nil _ _⟩
    · cases held
    · cases held
  · rintro ⟨rfl, some⟩
    cases items with
    | nil => exact absurd rfl some
    | cons => rfl

theorem held?_eq_none : held? reply = none ↔ ∀ items, ¬Holds reply items := by
  rw [Option.eq_none_iff_forall_ne_some]
  exact forall_congr' fun _ => not_congr held?_eq_some

end Holds

/-- What the user is told of a completion: the sources follow it, unless they may not be shown. -/
def withSources (question completion : String) (citations : List Citation) : String :=
  if mayCite question completion then completion ++ Citation.footer citations else completion

/-- The ways a turn can go: the exchanges, and what comes of them. -/
inductive Way (manner : Manner) (conversation : List Message) : List Exchange → Upshot → Prop
  | unasked (silent : lastUserText? conversation = none) :
      Way manner conversation []
        (.apology "No user message found." "no_user_message")
  | unredacted {question : String} {redaction : List Exchange} {error : ServiceError}
      (asked : lastUserText? conversation = some question)
      (lost : Redacts manner.language question redaction (.error error)) :
      Way manner conversation redaction ⟨.error error, "error", 0, none⟩
  | unembedded {question safe : String} {redaction : List Exchange}
      {reply : Except ServiceError (List Binary32)}
      (asked : lastUserText? conversation = some question)
      (redacted : Redacts manner.language question redaction (.ok safe))
      (nothing : ∀ vector, ¬Holds reply vector) :
      Way manner conversation (redaction ++ [⟨.embed safe, reply⟩])
        (.apology "Sorry, I couldn't process your request... (Backend Error - Embedding)"
          "embedding_failed")
  | unfound {question safe : String} {redaction : List Exchange} {vector : List Binary32}
      {reply : Except ServiceError (List Passage)}
      (asked : lastUserText? conversation = some question)
      (redacted : Redacts manner.language question redaction (.ok safe))
      (embedded : vector ≠ [])
      (nothing : ∀ passages, ¬Holds reply passages) :
      Way manner conversation
        (redaction ++ [⟨.embed safe, .ok vector⟩, ⟨.query vector manner.topK, reply⟩])
        (.apology "Sorry, I couldn't process your request... (Backend Error - Search Pinecone)"
          "search_failed")
  | uncompleted {question safe : String} {redaction : List Exchange} {vector : List Binary32}
      {passages : List Passage} {error : ServiceError}
      (asked : lastUserText? conversation = some question)
      (redacted : Redacts manner.language question redaction (.ok safe))
      (embedded : vector ≠ [])
      (found : passages ≠ []) :
      Way manner conversation
        (redaction ++ [⟨.embed safe, .ok vector⟩, ⟨.query vector manner.topK, .ok passages⟩,
          ⟨.complete
            ([.system instructions] ++ conversation ++ [contextMessage (Sources.context passages)])
            manner.temperature, .error error⟩])
        (.apology "Sorry, I couldn't process your request... (Backend Error - LLM)"
          "generation_failed")
  | completed {question safe : String} {redaction : List Exchange} {vector : List Binary32}
      {passages : List Passage} {completion : String}
      (asked : lastUserText? conversation = some question)
      (redacted : Redacts manner.language question redaction (.ok safe))
      (embedded : vector ≠ [])
      (found : passages ≠ []) :
      Way manner conversation
        (redaction ++ [⟨.embed safe, .ok vector⟩, ⟨.query vector manner.topK, .ok passages⟩,
          ⟨.complete
            ([.system instructions] ++ conversation ++ [contextMessage (Sources.context passages)])
            manner.temperature, .ok completion⟩])
        ⟨.ok (withSources question completion (Citation.collect passages)), "answered",
          if mayCite question completion then (Citation.collect passages).length else 0,
          some ⟨question, Sources.context passages,
            withSources question completion (Citation.collect passages)⟩⟩

/-! ## Stages -/

section Stages

variable {language question : String} {exchanges : List Exchange}

theorem redact_runs {result : Except ServiceError String} :
    (redact language question).Runs exchanges result ↔
      Redacts language question exchanges result := by
  rw [redact, Dialogue.runs_call_bind]
  constructor
  · rintro ⟨reply, rest, rfl, runs⟩
    match reply with
    | .error e =>
      obtain ⟨rfl, rfl⟩ := Dialogue.runs_done.mp runs
      exact .unanalyzed e
    | .ok [] =>
      obtain ⟨rfl, rfl⟩ := Dialogue.runs_done.mp runs
      exact .clean
    | .ok (entity :: entities) =>
      obtain rfl := Dialogue.runs_call.mp runs
      exact .replaced (entity :: entities) (List.cons_ne_nil _ _) result
  · intro redacts
    cases redacts with
    | unanalyzed e => exact ⟨.error e, [], rfl, .done _⟩
    | clean => exact ⟨.ok [], [], rfl, .done _⟩
    | replaced entities found reply =>
      cases entities with
      | nil => exact absurd rfl found
      | cons entity entities => exact ⟨.ok (entity :: entities), _, rfl, Dialogue.runs_call.mpr rfl⟩

/-- A question is located by one call, and has the vector that the reply holds. -/
theorem locate_runs {vector? : Option (List Binary32)} :
    (locate question).Runs exchanges vector? ↔
      ∃ reply, exchanges = [⟨.embed question, reply⟩] ∧ vector? = held? reply := by
  apply Dialogue.runs_call_done
  intro reply
  match reply with
  | .error _ => rfl
  | .ok [] => rfl
  | .ok (_ :: _) => rfl

/-- A search is one call, and finds what the reply holds. -/
theorem search_runs {topK : Nat} {vector : List Binary32} {passages : List Passage} :
    (search topK vector).Runs exchanges passages ↔
      ∃ reply, exchanges = [⟨.query vector topK, reply⟩] ∧ passages = (held? reply).getD [] := by
  apply Dialogue.runs_call_done
  intro reply
  match reply with
  | .error _ => rfl
  | .ok [] => rfl
  | .ok (_ :: _) => rfl

/-- How a composition ends that the model replies to. -/
def composed (question context : String) (citations : List Citation) :
    Except ServiceError String → Ending
  | .ok completion => .answered question context completion citations
  | .error _ => .generationFailed

/-- The model is asked once, and shown its instructions, the conversation and the context. -/
theorem compose_runs {temperature : Binary32} {conversation : List Message} {context : String}
    {citations : List Citation} {ending : Ending} :
    (compose temperature conversation question context citations).Runs exchanges ending ↔
      ∃ reply,
        exchanges = [⟨.complete ([.system instructions] ++ conversation ++ [contextMessage context])
          temperature, reply⟩] ∧
        ending = composed question context citations reply := by
  apply Dialogue.runs_call_done
  intro reply
  cases reply with
  | error _ => rfl
  | ok _ => rfl

end Stages

/-! ## Turns -/

variable {manner : Manner} {conversation : List Message} {exchanges : List Exchange}

theorem cite_eq_withSources (question completion : String) (citations : List Citation) :
    Sources.cite question completion citations = withSources question completion citations := by
  unfold Sources.cite Sources.shown withSources
  split
  · rfl
  · exact String.append_empty

theorem upshot_answered (question context completion : String) (citations : List Citation) :
    (Ending.answered question context completion citations).upshot =
      ⟨.ok (withSources question completion citations), "answered",
        if mayCite question completion then citations.length else 0,
        some ⟨question, context, withSources question completion citations⟩⟩ := by
  have counted : (Sources.shown question completion citations).length =
      if mayCite question completion then citations.length else 0 := by
    unfold Sources.shown
    split <;> rfl
  simp only [Ending.upshot, Ending.reply, Ending.outcome, Ending.cited, Ending.record?,
    cite_eq_withSources, counted]

/-- Every run of a turn goes one of the ways. -/
theorem way_of_runs {ending : Ending} (runs : (answer manner conversation).Runs exchanges ending) :
    Way manner conversation exchanges ending.upshot := by
  unfold answer at runs
  cases asked : lastUserText? conversation with
  | none =>
    rw [asked] at runs
    obtain ⟨rfl, rfl⟩ := Dialogue.runs_done.mp runs
    exact .unasked asked
  | some question =>
    rw [asked] at runs
    -- Behind each stage the turn is over, or the next stage follows.
    obtain ⟨redaction, _, redacted, rfl, first, behindRedaction⟩ := Dialogue.runs_bind.mp runs
    have redacts := redact_runs.mp first
    match redacted with
    | .error e =>
      obtain ⟨rfl, rfl⟩ := Dialogue.runs_done.mp behindRedaction
      rw [List.append_nil]
      exact .unredacted asked redacts
    | .ok safe =>
      obtain ⟨_, _, _, rfl, second, behindVector⟩ := Dialogue.runs_bind.mp behindRedaction
      obtain ⟨reply, rfl, rfl⟩ := locate_runs.mp second
      cases located : held? reply with
      | none =>
        rw [located] at behindVector
        obtain ⟨rfl, rfl⟩ := Dialogue.runs_done.mp behindVector
        exact .unembedded asked redacts (held?_eq_none.mp located)
      | some vector =>
        rw [located] at behindVector
        obtain ⟨rfl, embedded⟩ := held?_eq_some.mp located
        obtain ⟨_, _, _, rfl, third, behindPassages⟩ := Dialogue.runs_bind.mp behindVector
        obtain ⟨reply, rfl, rfl⟩ := search_runs.mp third
        cases searched : held? reply with
        | none =>
          rw [searched] at behindPassages
          obtain ⟨rfl, rfl⟩ := Dialogue.runs_done.mp behindPassages
          exact .unfound asked redacts embedded (held?_eq_none.mp searched)
        | some passages =>
          rw [searched] at behindPassages
          obtain ⟨rfl, found⟩ := held?_eq_some.mp searched
          cases passages with
          | nil => exact absurd rfl found
          | cons p ps =>
            -- Only a search that found something leads to a composition.
            obtain ⟨reply, rfl, rfl⟩ := compose_runs.mp behindPassages
            cases reply with
            | error e => exact .uncompleted asked redacts embedded found
            | ok completion =>
              rw [composed, upshot_answered]
              exact .completed asked redacts embedded found

end CitedAnswers.Answering
