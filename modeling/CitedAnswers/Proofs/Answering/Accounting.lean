import CitedAnswers.Proofs.Answering.Paths
import CitedAnswers.Proofs.Metrics.Counting

/-! # The tally of a series

After every turn of a series the tally says how many turns took which path, and how many citations
stood in the footers so far (`tally_of_getElem?`).  It does so whatever the services replied and
whatever stood at the path of the log, as a turn is entered by its ending alone.
-/

namespace CitedAnswers.Answering

open CitedAnswers.Chat (Message)
open CitedAnswers.Exchanges (Spot)
open CitedAnswers.Metrics (Counts Tally countOf total)
open CitedAnswers.Sources (Citation)

/-! ## Endings and paths -/

theorem exists_path (e : Ending) : ∃ path : Path, e.outcome = path.label := by
  cases e with
  | noQuestion => exact ⟨.noUserMessage, rfl⟩
  | redactionFailed => exact ⟨.error, rfl⟩
  | embeddingFailed => exact ⟨.embeddingFailed, rfl⟩
  | searchFailed => exact ⟨.searchFailed, rfl⟩
  | generationFailed => exact ⟨.generationFailed, rfl⟩
  | answered => exact ⟨.answered, rfl⟩

theorem count_outcome_eq_countP {manner : Manner} {turns : List Observed} {endings : List Ending}
    (ends : List.Forall₂ (Observed.EndsAs manner) turns endings) (path : Path) :
    (endings.map Ending.outcome).count path.label = turns.countP path.IsTaken := by
  have agree : turns.map path.IsTaken = endings.map fun e => e.outcome == path.label := by
    apply map_eq_of_forall₂ ends
    intro t e ends
    rw [Bool.eq_iff_iff, isTaken_iff ends, beq_iff_eq]
  -- Both sides count what is true in this list.
  have counts := congrArg (List.countP id) agree
  rw [List.countP_map, List.countP_map] at counts
  rw [List.count_eq_countP, List.countP_map]
  exact counts.symm

/-! ## The tally -/

variable {σ : Type}

section Entered

variable {setup : Setup σ} {steps : List (List Message × (Spot → Spot))} {s : Session σ} {n : Nat}
  {played : Played σ}

theorem tally_eq_foldl (here : (Session.turnsAmid setup steps s)[n]? = some played) :
    played.session.tally =
      (((Session.turnsAmid setup steps s).map Played.ending).take (n + 1)).foldl
        (fun t e => t.count e) s.tally :=
  view_of_getElem? Session.tally (fun t e => t.count e) (fun _ _ => rfl) (fun _ _ _ => rfl) here

theorem counts_of_getElem? (reset : s.tally = .empty)
    (here : (Session.turnsAmid setup steps s)[n]? = some played) :
    Counts ((((Session.turnsAmid setup steps s).map Played.ending).take (n + 1)).map
      Ending.outcome) played.session.tally.outcomes := by
  rw [tally_eq_foldl here, reset, Metrics.outcomes_foldl_count]
  exact Metrics.counts_foldl _

theorem citations_of_getElem? (reset : s.tally = .empty)
    (here : (Session.turnsAmid setup steps s)[n]? = some played) :
    played.session.tally.citations =
      UInt64.ofNat ((((Session.turnsAmid setup steps s).map Played.ending).take (n + 1)).map
        Ending.cited).sum := by
  rw [tally_eq_foldl here, reset, Metrics.citations_foldl_count]
  exact UInt64.zero_add _

theorem length_take_endings (here : (Session.turnsAmid setup steps s)[n]? = some played) :
    (((Session.turnsAmid setup steps s).map Played.ending).take (n + 1)).length = n + 1 := by
  obtain ⟨bound, -⟩ := List.getElem?_eq_some_iff.mp here
  rw [List.length_take, List.length_map]
  omega

end Entered

/-- After every turn the counts add up to the turns so far, each path is counted as often as it was
taken and nothing else is, and the citations are those of the footers, which follow completions. -/
theorem tally_of_getElem? (setup : Setup σ) (steps : List (List Message × (Spot → Spot)))
    (s : Session σ) (reset : s.tally = .empty) {n : Nat} {played : Played σ}
    (here : (Session.turnsAmid setup steps s)[n]? = some played) (fewTurns : n + 1 < 2 ^ 64)
    (fewCitations : (((Session.observedAmid setup steps s).take (n + 1)).map
      fun t => t.footer.length).sum < 2 ^ 64) :
    let turns := (Session.observedAmid setup steps s).take (n + 1)
    total played.session.tally.outcomes = n + 1 ∧
    (∀ path : Path, (countOf path.label played.session.tally.outcomes).toNat =
      turns.countP path.IsTaken) ∧
    (∀ name ∈ played.session.tally.outcomes.map Prod.fst, ∃ path : Path, name = path.label) ∧
    played.session.tally.citations.toNat = (turns.map fun t => t.footer.length).sum ∧
    (∀ t ∈ turns, ∀ completion, t.completion? = some completion →
      t.told = .ok (completion ++ Citation.footer t.footer)) := by
  intro turns
  have counts := counts_of_getElem? reset here
  have citations := citations_of_getElem? reset here
  have length := length_take_endings here
  have ends : List.Forall₂ (Observed.EndsAs setup.manner) turns _ :=
    List.forall₂_take (n + 1) (endsAs_observe setup steps s)
  -- From here on the turns and the tally have nothing in common but the endings.
  generalize ((Session.turnsAmid setup steps s).map Played.ending).take (n + 1) = endings
    at counts citations length ends
  refine ⟨?_, ?_, ?_, ?_, ?_⟩
  · have sum := counts.total_eq
    rw [List.length_map, length] at sum
    exact sum fewTurns
  · intro path
    have few := List.countP_le_length (p := path.IsTaken) (l := turns)
    rw [ends.length_eq, length] at few
    rw [counts.counted, count_outcome_eq_countP ends]
    exact UInt64.toNat_ofNat_of_lt' (Nat.lt_of_le_of_lt few fewTurns)
  · intro name member
    obtain ⟨e, -, rfl⟩ := List.mem_map.mp ((counts.named name).mp member)
    exact exists_path e
  · have footers := map_eq_of_forall₂ ends fun t e ends => (cited_eq_length_footer ends).symm
    rw [citations, ← footers]
    exact UInt64.toNat_ofNat_of_lt' fewCitations
  · intro t member completion came
    obtain ⟨e, -, ends⟩ := exists_ending_of_mem ends member
    exact told_eq_append_footer ends came

/-! ## A mixed series -/

/-- Services that find one passage.  The second question cannot be analyzed, and the completion after
it is a set phrase. -/
def moody : Services Nat
  | .analyze .., 1 => (.error (.transport "reset"), 2)
  | .analyze .., turn => (.ok [], turn + 1)
  | .anonymize .., turn => (.ok "", turn)
  | .embed .., turn => (.ok [.ofNat 1], turn)
  | .query .., turn => (.ok [⟨"[5 – 9] y", "Y", some "L"⟩], turn)
  | .complete .., turn => (.ok (if turn = 3 then "Assalamualaikum" else "Yes."), turn)

def moodySetup : Setup Nat :=
  ⟨moody, ⟨"en", 3, .ofQuotient false 3 10⟩, .enabled⟩

/-- Questions and none, with a log that cannot be written to at first and is removed at last. -/
def mixedSteps : List (List Message × (Spot → Spot)) := [
  ([.user "Why?"], fun _ => .directory),
  ([.assistant "Hm."], id),
  ([.user "How?"], id),
  ([.user "Hi"], fun _ => .vacant)]

theorem tally_of_getElem?_mixed :
    ∃ played, (Session.turnsAmid moodySetup mixedSteps ⟨0, .vacant, .empty⟩)[3]? = some played ∧
      total played.session.tally.outcomes = 4 ∧
      (countOf Path.answered.label played.session.tally.outcomes).toNat = 2 ∧
      (countOf Path.error.label played.session.tally.outcomes).toNat = 1 ∧
      played.session.tally.citations.toNat = 1 := by
  obtain ⟨played, here⟩ : ∃ played,
      (Session.turnsAmid moodySetup mixedSteps ⟨0, .vacant, .empty⟩)[3]? = some played := ⟨_, rfl⟩
  obtain ⟨sum, paths, -, citations, -⟩ :=
    tally_of_getElem? moodySetup mixedSteps ⟨0, .vacant, .empty⟩ rfl here (by decide) (by decide)
  refine ⟨played, here, sum, (paths .answered).trans ?_, (paths .error).trans ?_,
    citations.trans ?_⟩
  · decide
  · decide
  · decide

end CitedAnswers.Answering
