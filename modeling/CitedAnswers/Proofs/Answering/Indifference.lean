import CitedAnswers.Proofs.Answering.Accounting
import CitedAnswers.Proofs.Exchanges.Histories

/-! # Answers and the log

A log takes what turns leave in it and gives nothing back.  So it makes no difference to what is
told, to the calls and their replies, or to the counts whether a log is kept, what stands at its
path, and what others do there between the turns (`turnsAmid_indifferent`).

The invariant is that two sessions agree on all but the path (`Session.Agrees`): a turn comes to the
same out of both, and they still agree behind it.
-/

namespace CitedAnswers.Answering

open CitedAnswers.Chat (Message)
open CitedAnswers.Exchanges (Change Log Spot)
open CitedAnswers.Metrics (Tally)

variable {σ : Type}

/-! ## Apart from the log -/

/-- What a turn comes to apart from the log: what the user is told, the calls with their replies,
and the services and the counts behind it. -/
structure Unlogged (σ : Type) where
  told : Except ServiceError String
  exchanges : List Exchange
  memory : σ
  tally : Tally

def Played.unlogged (played : Played σ) : Unlogged σ :=
  ⟨played.ending.reply, played.exchanges, played.session.memory, played.session.tally⟩

/-- Whether two sessions differ at most in what stands at the path of the log. -/
structure Session.Agrees (s s' : Session σ) : Prop where
  memory : s.memory = s'.memory
  tally : s.tally = s'.tally

/-! ## Turns -/

section Turns

variable (services : Services σ) (manner : Manner) (log log' : Log)

theorem unlogged_turn (conversation : List Message) {s s' : Session σ} (agree : s.Agrees s') :
    (s.turn ⟨services, manner, log⟩ conversation).unlogged =
      (s'.turn ⟨services, manner, log'⟩ conversation).unlogged := by
  -- The dialogue starts from the memory alone, and the tally counts its ending alone.
  unfold Played.unlogged Session.turn Session.play Session.enter
  dsimp only
  rw [agree.memory, agree.tally]

theorem agrees_of_unlogged {played played' : Played σ} (same : played.unlogged = played'.unlogged) :
    played.session.Agrees played'.session :=
  ⟨congrArg Unlogged.memory same, congrArg Unlogged.tally same⟩

/-- Two series of the same conversations over the same services come to the same turn by turn,
whichever logs are kept, whatever stands at their paths, and whatever changes it between turns. -/
theorem turnsAmid_indifferent {steps steps' : List (List Message × (Spot → Spot))}
    (conversations : steps.map Prod.fst = steps'.map Prod.fst) {s s' : Session σ}
    (agree : s.Agrees s') :
    (Session.turnsAmid ⟨services, manner, log⟩ steps s).map Played.unlogged =
      (Session.turnsAmid ⟨services, manner, log'⟩ steps' s').map Played.unlogged := by
  -- Each turn leaves other sessions to the rest, whose paths may differ in any way by then.
  induction steps generalizing steps' s s' with
  | nil =>
    obtain rfl : steps' = [] := List.map_eq_nil_iff.mp conversations.symm
    rfl
  | cons step rest ih =>
    obtain ⟨conversation, change⟩ := step
    cases steps' with
    | nil => cases conversations
    | cons step' rest' =>
      obtain ⟨conversation', change'⟩ := step'
      obtain ⟨same, behind⟩ := List.cons.inj conversations
      obtain rfl : conversation = conversation' := same
      have changed : Session.Agrees { s with spot := change s.spot }
          { s' with spot := change' s'.spot } := ⟨agree.memory, agree.tally⟩
      have turn := unlogged_turn services manner log log' conversation changed
      rw [Session.turnsAmid, Session.turnsAmid, List.map_cons, List.map_cons, turn]
      exact congrArg _ (ih behind (agrees_of_unlogged turn))

end Turns

/-- The questions of `mixedSteps`, where the log can be written to in the first turn and not in the
last: the other way round. -/
def reversedSteps : List (List Message × (Spot → Spot)) := [
  ([.user "Why?"], Change.makeParent.apply),
  ([.assistant "Hm."], Change.removeFile.apply),
  ([.user "How?"], Change.makeDirectory.apply),
  ([.user "Hi"], id)]

theorem turnsAmid_indifferent_reversed :
    (Session.turnsAmid moodySetup mixedSteps ⟨0, .vacant, .empty⟩).map Played.unlogged =
        (Session.turnsAmid ⟨moody, moodySetup.manner, .enabled⟩ reversedSteps
          ⟨0, .absent .plain [.plain], .empty⟩).map Played.unlogged ∧
      (Session.turnsAmid moodySetup mixedSteps ⟨0, .vacant, .empty⟩).map Played.unlogged =
        (Session.turnsAmid ⟨moody, moodySetup.manner, .disabled⟩ reversedSteps
          ⟨0, .file "", .empty⟩).map Played.unlogged ∧
      (Session.turnsAmid moodySetup mixedSteps ⟨0, .vacant, .empty⟩).map (·.session.spot) ≠
        (Session.turnsAmid ⟨moody, moodySetup.manner, .enabled⟩ reversedSteps
          ⟨0, .absent .plain [.plain], .empty⟩).map (·.session.spot) := by
  refine ⟨?_, ?_, by decide⟩
  · exact turnsAmid_indifferent moody moodySetup.manner .enabled .enabled rfl ⟨rfl, rfl⟩
  · exact turnsAmid_indifferent moody moodySetup.manner .enabled .disabled rfl ⟨rfl, rfl⟩

end CitedAnswers.Answering
