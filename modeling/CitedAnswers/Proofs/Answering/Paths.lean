import CitedAnswers.Proofs.Answering.Series

/-! # What a turn shows

The last call of a turn and its reply tell how far the turn came: a turn stops behind the call that
it cannot go on from, and one that came to the end asked for a completion last.  So the path a turn
took (`Path.IsTaken`), the citations below its answer (`Observed.footer`) and the entry that it
belongs to (`Observed.Gives`) can all be read off from what is seen of it.

Each of them is shown to agree with the ending of the turn.
-/

namespace CitedAnswers.Answering

open CitedAnswers.Chat (Message lastUserText?)
open CitedAnswers.Number (Binary32)
open CitedAnswers.Sources (Citation Passage mayCite)

/-! ## Reading turns -/

/-- The completion that came, if one did. -/
def Observed.completion? (t : Observed) : Option String :=
  match t.exchanges.getLast? with
  | some ⟨.complete _ _, .ok completion⟩ => some completion
  | _ => none

/-- The paths that a turn can end on. -/
inductive Path where
  | error
  | noUserMessage
  | embeddingFailed
  | searchFailed
  | generationFailed
  | answered
  deriving DecidableEq, Repr

namespace Path

def label : Path → String
  | error => "error"
  | noUserMessage => "no_user_message"
  | embeddingFailed => "embedding_failed"
  | searchFailed => "search_failed"
  | generationFailed => "generation_failed"
  | answered => "answered"

/-- Whether a turn ended on a path: it told an error, there was no question, or the call that it
made last was for a vector, for passages, or for a completion, which came or did not. -/
def IsTaken (t : Observed) : Path → Bool
  | error => match t.told with
    | .error _ => true
    | .ok _ => false
  | noUserMessage => (lastUserText? t.conversation).isNone
  | embeddingFailed => match t.exchanges.getLast? with
    | some ⟨.embed _, _⟩ => true
    | _ => false
  | searchFailed => match t.exchanges.getLast? with
    | some ⟨.query _ _, _⟩ => true
    | _ => false
  | generationFailed => match t.exchanges.getLast? with
    | some ⟨.complete _ _, .error _⟩ => true
    | _ => false
  | answered => t.completion?.isSome

end Path

namespace Observed

def passages (t : Observed) : List Passage :=
  (t.exchanges.findSome? fun
    | ⟨.query _ _, .ok passages⟩ => some passages
    | _ => none).getD []

/-- The citations in the footer that was attached.  One was if more was told than the completion. -/
def footer (t : Observed) : List Citation :=
  match t.completion?, t.told with
  | some completion, .ok answer => if answer = completion then [] else Citation.collect t.passages
  | _, _ => []

/-- Whether an entry is what a turn has to leave in the log: the question as it was put, the context
that the completion was asked for with, and the answer as it was told. -/
structure Gives (t : Observed) (e : Answered) : Prop where
  question : lastUserText? t.conversation = some e.question
  context : ∃ before vector topK passages temperature completion,
    t.exchanges = before ++ [⟨.query vector topK, .ok passages⟩,
      ⟨.complete (prompt t.conversation e.context) temperature, .ok completion⟩] ∧
    e.context = Sources.context passages
  answer : t.told = .ok e.answer

end Observed

/-! ## Agreement with endings -/

section Agreement

variable {manner : Manner} {t : Observed} {e : Ending}

theorem isTaken_iff (ends : t.EndsAs manner e) (path : Path) :
    path.IsTaken t = true ↔ e.outcome = path.label := by
  obtain ⟨way, told⟩ := ends
  obtain ⟨conversation, exchanges, reply⟩ := t
  dsimp only at way told
  generalize shown : e.upshot = upshot at way
  have outcome : e.outcome = upshot.outcome := congrArg Upshot.outcome shown
  obtain rfl : reply = upshot.told := told.trans (congrArg Upshot.told shown)
  rw [outcome]
  -- On the way of the turn: it fixes the last exchange, and with it which of the paths was taken.
  cases way with
  | unasked silent =>
    cases path <;> simp [Path.IsTaken, Observed.completion?, Path.label, Upshot.apology, silent]
  | unredacted asked lost =>
    cases lost <;> cases path <;> simp [Path.IsTaken, Observed.completion?, Path.label, asked]
  | unembedded asked redacted nothing =>
    cases path <;> simp [Path.IsTaken, Observed.completion?, Path.label, Upshot.apology, asked]
  | unfound asked redacted embedded nothing =>
    cases path <;> simp [Path.IsTaken, Observed.completion?, Path.label, Upshot.apology, asked]
  | uncompleted asked redacted embedded found =>
    cases path <;> simp [Path.IsTaken, Observed.completion?, Path.label, Upshot.apology, asked]
  | completed asked redacted embedded found =>
    cases path <;> simp [Path.IsTaken, Observed.completion?, Path.label, asked]

/-- What is known of a turn for which a completion came. -/
structure Completed (t : Observed) (e : Ending) (question completion : String) : Prop where
  asked : lastUserText? t.conversation = some question
  told : e.reply = .ok (withSources question completion (Citation.collect t.passages))
  cited : e.cited =
    if mayCite question completion then (Citation.collect t.passages).length else 0
  recorded : e.record? = some ⟨question, Sources.context t.passages,
    withSources question completion (Citation.collect t.passages)⟩
  exchanges : ∃ before vector topK temperature,
    t.exchanges = before ++ [⟨.query vector topK, .ok t.passages⟩,
      ⟨.complete (prompt t.conversation (Sources.context t.passages)) temperature, .ok completion⟩]

theorem passages_of_redacts {language question safe : String} {redaction : List Exchange}
    (redacted : Redacts language question redaction (.ok safe)) (conversation : List Message)
    (told : Except ServiceError String) (vector : List Binary32) (topK : Nat)
    (passages : List Passage) (last : Exchange) :
    Observed.passages ⟨conversation, redaction ++
      [⟨.embed safe, .ok vector⟩, ⟨.query vector topK, .ok passages⟩, last], told⟩ = passages := by
  cases redacted <;> rfl

/-- A completion comes on the one way that leads to the end; on all others nothing is cited and
nothing recorded. -/
theorem completed_or_not (ends : t.EndsAs manner e) :
    (∃ question completion, t.completion? = some completion ∧ Completed t e question completion) ∨
      t.completion? = none ∧ e.cited = 0 ∧ e.record? = none := by
  obtain ⟨way, -⟩ := ends
  obtain ⟨conversation, exchanges, reply⟩ := t
  dsimp only at way
  generalize shown : e.upshot = upshot at way
  have told : e.reply = upshot.told := congrArg Upshot.told shown
  have cited : e.cited = upshot.cited := congrArg Upshot.cited shown
  have recorded : e.record? = upshot.recorded := congrArg Upshot.recorded shown
  -- On the way of the turn: only the last one has a completion in its last exchange.
  cases way with
  | unasked silent => exact .inr ⟨rfl, cited, recorded⟩
  | unredacted asked lost =>
    refine .inr ⟨?_, cited, recorded⟩
    cases lost <;> rfl
  | unembedded asked redacted nothing =>
    refine .inr ⟨?_, cited, recorded⟩
    simp [Observed.completion?]
  | unfound asked redacted embedded nothing =>
    refine .inr ⟨?_, cited, recorded⟩
    simp [Observed.completion?]
  | uncompleted asked redacted embedded found =>
    refine .inr ⟨?_, cited, recorded⟩
    simp [Observed.completion?]
  | @completed question safe redaction vector passages completion asked redacted embedded found =>
    have seen := passages_of_redacts redacted conversation reply vector manner.topK passages
      ⟨.complete ([.system instructions] ++ conversation ++
        [contextMessage (Sources.context passages)]) manner.temperature, .ok completion⟩
    refine .inl ⟨question, completion, ?_, asked, ?_, ?_, ?_, ?_⟩
    · simp [Observed.completion?]
    · rw [seen, told]
    · rw [seen, cited]
    · rw [seen, recorded]
    · rw [seen]
      refine ⟨redaction ++ [⟨.embed safe, .ok vector⟩], vector, manner.topK, manner.temperature, ?_⟩
      exact (List.append_assoc redaction [⟨.embed safe, .ok vector⟩] _).symm

end Agreement

/-! ## Footers -/

theorem footer_ne_empty {citations : List Citation} (nonempty : citations ≠ []) :
    Citation.footer citations ≠ "" := by
  have filled : citations.isEmpty = false := List.isEmpty_eq_false_iff.mpr nonempty
  rw [Citation.footer, filled]
  intro empty
  have characters := congrArg String.toList empty
  rw [if_neg Bool.false_ne_true, String.toList_append] at characters
  exact absurd (List.append_eq_nil_iff.mp characters).1 (by decide)

/-- Sources follow a completion exactly where more is told than the completion. -/
theorem withSources_eq_self_iff (question completion : String) (citations : List Citation) :
    withSources question completion citations = completion ↔
      Sources.shown question completion citations = [] := by
  rw [← cite_eq_withSources, Sources.cite]
  generalize Sources.shown question completion citations = sources
  constructor
  · intro same
    by_contra some
    -- Behind the completion there would be a footer, but nothing is there.
    apply footer_ne_empty some
    rw [← String.append_empty (s := completion), String.append_assoc, String.append_right_inj]
      at same
    rw [← same, String.empty_append]
  · rintro rfl
    exact String.append_empty

section Completion

variable {manner : Manner} {t : Observed} {e : Ending} {question completion : String}

theorem footer_of_completed (came : t.completion? = some completion)
    (completed : Completed t e question completion) (told : t.told = e.reply) :
    t.footer = Sources.shown question completion (Citation.collect t.passages) := by
  rw [Observed.footer, came, told, completed.told]
  dsimp only
  split
  · next same => exact ((withSources_eq_self_iff question completion _).mp same).symm
  · next longer =>
    rw [withSources_eq_self_iff] at longer
    unfold Sources.shown at longer ⊢
    split
    · rfl
    · next hidden => exact absurd (if_neg hidden) longer

/-- A turn counts as many citations as its footer holds. -/
theorem cited_eq_length_footer (ends : t.EndsAs manner e) : e.cited = t.footer.length := by
  rcases completed_or_not ends with ⟨question, completion, came, completed⟩ | ⟨none, cited, -⟩
  · rw [footer_of_completed came completed ends.2, completed.cited]
    unfold Sources.shown
    split <;> rfl
  · rw [cited, Observed.footer, none]
    rfl

/-- What is told of a completion is the completion and its footer. -/
theorem told_eq_append_footer (ends : t.EndsAs manner e) (came : t.completion? = some completion) :
    t.told = .ok (completion ++ Citation.footer t.footer) := by
  rcases completed_or_not ends with ⟨question, other, came', completed⟩ | ⟨none, -, -⟩
  · obtain rfl : completion = other := Option.some.inj (came.symm.trans came')
    rw [footer_of_completed came completed ends.2, ends.2, completed.told, ← cite_eq_withSources]
    rfl
  · rw [none] at came
    cases came

/-- A turn is recorded exactly if a completion came, and then as what it has to leave. -/
theorem record?_of_endsAs (ends : t.EndsAs manner e) :
    (∃ entry, Path.answered.IsTaken t = true ∧ e.record? = some entry ∧ t.Gives entry) ∨
      Path.answered.IsTaken t = false ∧ e.record? = none := by
  rcases completed_or_not ends with ⟨question, completion, came, completed⟩ | ⟨none, -, unrecorded⟩
  · refine .inl ⟨_, ?_, completed.recorded, completed.asked, ?_, ?_⟩
    · rw [Path.IsTaken, came, Option.isSome_some]
    · obtain ⟨before, vector, topK, temperature, exchanges⟩ := completed.exchanges
      exact ⟨before, vector, topK, t.passages, temperature, completion, exchanges, rfl⟩
    · exact ends.2.trans completed.told
  · exact .inr ⟨by rw [Path.IsTaken, none, Option.isSome_none], unrecorded⟩

end Completion

end CitedAnswers.Answering
