import CitedAnswers.Proofs.Answering.Ways
import Mathlib.Data.List.Forall2

/-! # Series of turns

Turns are played one after the other, and what stands at the path of the log may be changed from
outside before each of them (`Session.turnsAmid`).  A part of the session that such changes leave
alone, and that a turn changes by its ending only, is after any number of turns what their endings
make of it (`view_of_getElem?`).

A series is seen from outside as conversations, exchanges and what the user was told (`Observed`).
Each turn that is seen so ends in a way that the exchanges allow (`endsAs_observe`), so what is
counted or recorded of endings can be told from what is seen.
-/

namespace CitedAnswers.Answering

open CitedAnswers.Chat (Message)
open CitedAnswers.Exchanges (Spot)

variable {σ : Type} {setup : Setup σ}

/-! ## Playing -/

/-- Plays turns one after the other, each after a change of what stands at the path of the log. -/
def Session.turnsAmid (setup : Setup σ) :
    List (List Message × (Spot → Spot)) → Session σ → List (Played σ)
  | [], _ => []
  | (conversation, change) :: rest, s =>
    let played := Session.turn setup conversation { s with spot := change s.spot }
    played :: turnsAmid setup rest played.session

theorem turnsAmid_id (conversations : List (List Message)) (s : Session σ) :
    Session.turnsAmid setup (conversations.map fun conversation => (conversation, id)) s =
      Session.turns setup conversations s := by
  induction conversations generalizing s with
  | nil => rfl
  | cons conversation rest ih =>
    rw [List.map_cons, Session.turnsAmid, Session.turns]
    exact congrArg _ (ih _)

/-- The session after a turn, as far as the endings up to there tell it. -/
theorem view_of_getElem? {α : Type} (view : Session σ → α) (enter : α → Ending → α)
    (entered : ∀ conversation s, view (s.turn setup conversation).session =
      enter (view s) (s.turn setup conversation).ending)
    {steps : List (List Message × (Spot → Spot))}
    (apart : ∀ step ∈ steps, ∀ s : Session σ, view { s with spot := step.2 s.spot } = view s)
    {s : Session σ} {n : Nat} {played : Played σ}
    (here : (Session.turnsAmid setup steps s)[n]? = some played) :
    view played.session = (((Session.turnsAmid setup steps s).map Played.ending).take
      (n + 1)).foldl enter (view s) := by
  -- The session stays general: each turn leaves another one to the rest of the steps.
  induction steps generalizing s n with
  | nil => cases here
  | cons step rest ih =>
    obtain ⟨conversation, change⟩ := step
    have first := entered conversation { s with spot := change s.spot }
    rw [apart _ List.mem_cons_self s] at first
    rw [Session.turnsAmid] at here ⊢
    rw [List.map_cons, List.take_succ_cons, List.foldl_cons, ← first]
    cases n with
    | zero =>
      cases here
      rw [List.take_zero]
      rfl
    | succ n =>
      exact ih (fun step member => apart step (List.mem_cons_of_mem _ member)) here

theorem way_of_turn (conversation : List Message) (s : Session σ) :
    Way setup.manner conversation (s.turn setup conversation).exchanges
      (s.turn setup conversation).ending.upshot := by
  have course : (answer setup.manner conversation).run setup.services s.memory =
      ⟨(s.turn setup conversation).ending, (s.turn setup conversation).exchanges,
        (s.turn setup conversation).session.memory⟩ := rfl
  exact way_of_runs (Dialogue.run_eq_iff.mp course).1

/-! ## Seeing -/

/-- A turn as it is seen from outside. -/
structure Observed where
  conversation : List Message
  exchanges : List Exchange
  told : Except ServiceError String

/-- What is seen of turns with these conversations. -/
def observe (conversations : List (List Message)) (turns : List (Played σ)) : List Observed :=
  List.zipWith (fun conversation played => ⟨conversation, played.exchanges, played.ending.reply⟩)
    conversations turns

def Session.observedAmid (setup : Setup σ) (steps : List (List Message × (Spot → Spot)))
    (s : Session σ) : List Observed :=
  observe (steps.map Prod.fst) (Session.turnsAmid setup steps s)

/-- An ending that a turn may have as far as it is seen. -/
def Observed.EndsAs (manner : Manner) (t : Observed) (e : Ending) : Prop :=
  Way manner t.conversation t.exchanges e.upshot ∧ t.told = e.reply

theorem endsAs_observe (setup : Setup σ) (steps : List (List Message × (Spot → Spot)))
    (s : Session σ) :
    List.Forall₂ (Observed.EndsAs setup.manner) (Session.observedAmid setup steps s)
      ((Session.turnsAmid setup steps s).map Played.ending) := by
  unfold Session.observedAmid
  induction steps generalizing s with
  | nil => exact .nil
  | cons step rest ih =>
    obtain ⟨conversation, change⟩ := step
    rw [Session.turnsAmid]
    exact .cons ⟨way_of_turn conversation _, rfl⟩ (ih _)

theorem endsAs_observe_turns (setup : Setup σ) (conversations : List (List Message))
    (s : Session σ) :
    List.Forall₂ (Observed.EndsAs setup.manner)
      (observe conversations (Session.turns setup conversations s))
      ((Session.turns setup conversations s).map Played.ending) := by
  have ends := endsAs_observe setup (conversations.map fun c => (c, id)) s
  have kept :
      (conversations.map fun c => (c, (id : Spot → Spot))).map Prod.fst = conversations := by
    rw [List.map_map]
    exact List.map_id conversations
  rw [Session.observedAmid, turnsAmid_id, kept] at ends
  exact ends

section Ends

variable {manner : Manner} {turns : List Observed} {endings : List Ending}

/-- What each turn shows of its ending, all turns show of all endings. -/
theorem map_eq_of_forall₂ {α : Type} (ends : List.Forall₂ (Observed.EndsAs manner) turns endings)
    {f : Observed → α} {g : Ending → α} (same : ∀ t e, t.EndsAs manner e → f t = g e) :
    turns.map f = endings.map g := by
  induction ends with
  | nil => rfl
  | cons first _ ih => rw [List.map_cons, List.map_cons, same _ _ first, ih]

theorem exists_ending_of_mem (ends : List.Forall₂ (Observed.EndsAs manner) turns endings)
    {t : Observed} (member : t ∈ turns) : ∃ e ∈ endings, t.EndsAs manner e := by
  induction ends with
  | nil => cases member
  | cons first _ ih =>
    cases member with
    | head => exact ⟨_, List.mem_cons_self, first⟩
    | tail _ member =>
      obtain ⟨e, inside, last⟩ := ih member
      exact ⟨e, List.mem_cons_of_mem _ inside, last⟩

end Ends

end CitedAnswers.Answering
