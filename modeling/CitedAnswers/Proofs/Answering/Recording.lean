import CitedAnswers.Proofs.Answering.Paths
import CitedAnswers.Proofs.Exchanges.RoundTrip
import Mathlib.Data.List.Induction

/-! # The log of a series

The log of a series that starts with no file, or an empty one, is the header and one row for each
turn for which a completion came (`log_of_getElem?`).  Before the first such turn nothing is made at
the path.

`logAt` is the invariant: it tells what stands at the path behind any entries, and recording one
more keeps it (`record_logAt`).
-/

namespace CitedAnswers.Exchanges

open CitedAnswers.Answering (Answered)

/-! ## Logs and their entries -/

def logText (entries : List Answered) : String :=
  writeRow columns ++ String.join (entries.map row)

/-- What stands at a path behind these entries. -/
def logAt (spot : Spot) : List Answered → Spot
  | [] => spot
  | e :: more => .file (logText (e :: more))

theorem logText_concat (entries : List Answered) (e : Answered) :
    logText (entries ++ [e]) = logText entries ++ row e := by
  rw [logText, List.map_append, String.join_append, ← String.append_assoc, List.map_singleton,
    String.join_cons, String.join_nil, String.append_empty]
  rfl

theorem logText_ne_empty (entries : List Answered) : logText entries ≠ "" := by
  induction entries using List.reverseRecOn with
  | nil =>
    rw [logText, List.map_nil]
    decide
  | append_singleton entries e _ =>
    rw [logText_concat]
    exact append_writeRow_ne_empty _ _

theorem whole_logText (entries : List Answered) :
    Whole (logText entries)
      (columns :: entries.map fun e => [e.question, e.context, e.answer]) := by
  induction entries using List.reverseRecOn with
  | nil =>
    rw [logText, List.map_nil, List.map_nil]
    exact whole_header
  | append_singleton entries e ih =>
    rw [logText_concat, List.map_append, ← List.cons_append]
    exact ih.append_row _ _ _

theorem record_logAt {spot : Spot} (fresh : spot.writable? = .ok "") (entries : List Answered)
    (e : Answered) : Log.enabled.record e (logAt spot entries) = logAt spot (entries ++ [e]) := by
  cases entries with
  | nil =>
    rw [logAt, Log.record, Log.append, append, fresh]
    rfl
  | cons first more =>
    -- A file with an entry has the header already, so nothing but the row is added.
    have filled := logText_ne_empty (first :: more)
    have extended : extend (logText (first :: more)) e = logText (first :: more ++ [e]) := by
      rw [extend, if_neg filled, logText_concat]
    exact congrArg Spot.file extended

end CitedAnswers.Exchanges

namespace CitedAnswers.Answering

open CitedAnswers.Chat (Message)
open CitedAnswers.Exchanges (Log Spot logAt logText readRows whole_logText)

/-! ## Series -/

theorem foldl_record {spot : Spot} (fresh : spot.writable? = .ok "") (endings : List Ending) :
    endings.foldl (fun spot e => match e.record? with
      | some answered => Log.enabled.record answered spot
      | none => spot) spot = logAt spot (endings.filterMap Ending.record?) := by
  -- From the last ending, as it is the one whose entry stands at the end of the log.
  induction endings using List.reverseRecOn with
  | nil => rfl
  | append_singleton endings e ih =>
    rw [List.foldl_append, ih, List.filterMap_append]
    cases recorded : e.record? with
    | none => simp [recorded]
    | some answered =>
      simp only [List.foldl_cons, List.foldl_nil, recorded, List.filterMap_cons, List.filterMap_nil]
      exact Exchanges.record_logAt fresh _ _

/-- The entries of a series belong to the turns for which a completion came, in order. -/
theorem gives_of_endsAs {manner : Manner} {turns : List Observed} {endings : List Ending}
    (ends : List.Forall₂ (Observed.EndsAs manner) turns endings) :
    List.Forall₂ Observed.Gives (turns.filter Path.answered.IsTaken)
      (endings.filterMap Ending.record?) := by
  induction ends with
  | nil => exact .nil
  | cons first _ ih =>
    rcases record?_of_endsAs first with ⟨entry, came, recorded, gives⟩ | ⟨none, unrecorded⟩
    · rw [List.filter_cons_of_pos (p := Path.answered.IsTaken) came,
        List.filterMap_cons_some recorded]
      exact .cons gives ih
    · rw [List.filter_cons_of_neg (p := Path.answered.IsTaken) (ne_true_of_eq_false none),
        List.filterMap_cons_none unrecorded]
      exact ih

variable {σ : Type}

theorem spot_eq_logAt {setup : Setup σ} (kept : setup.log = .enabled)
    {conversations : List (List Message)} {s : Session σ} (fresh : s.spot.writable? = .ok "")
    {n : Nat} {played : Played σ} (here : (Session.turns setup conversations s)[n]? = some played) :
    played.session.spot = logAt s.spot
      ((((Session.turns setup conversations s).map Played.ending).take (n + 1)).filterMap
        Ending.record?) := by
  rw [← foldl_record fresh]
  rw [← turnsAmid_id] at here ⊢
  apply view_of_getElem? Session.spot _ _ _ here
  · intro conversation s
    rw [← kept]
    rfl
  · intro step member s
    obtain ⟨conversation, -, rfl⟩ := List.mem_map.mp member
    rfl

/-- After every turn the log holds, behind the header, one row for each turn so far for which a
completion came, in order, with the question, the context and the answer of that turn.  Where there
is none, nothing has been made or changed at the path. -/
theorem log_of_getElem? (setup : Setup σ) (kept : setup.log = .enabled)
    (conversations : List (List Message)) (s : Session σ) (fresh : s.spot.writable? = .ok "")
    {n : Nat} {played : Played σ} (here : (Session.turns setup conversations s)[n]? = some played) :
    let turns := (observe conversations (Session.turns setup conversations s)).take (n + 1)
    let generated := turns.filter Path.answered.IsTaken
    (generated = [] → played.session.spot = s.spot) ∧
    (generated ≠ [] → ∃ entries, List.Forall₂ Observed.Gives generated entries ∧
      played.session.spot = .file (logText entries) ∧
      readRows (logText entries) = ["Question", "Context", "Answer"] ::
        entries.map fun e => [e.question, e.context, e.answer]) := by
  intro turns generated
  have spot := spot_eq_logAt kept fresh here
  have gives := gives_of_endsAs
    (List.forall₂_take (n + 1) (endsAs_observe_turns setup conversations s))
  -- Only the entries matter from here on: the file holds them, and the turns give them.
  generalize List.filterMap Ending.record? _ = entries at spot gives
  constructor
  · intro none
    change List.Forall₂ _ generated _ at gives
    rw [none, List.forall₂_nil_left_iff] at gives
    rw [spot, gives, logAt]
  · intro some
    refine ⟨entries, gives, ?_, (whole_logText entries).readRows_eq⟩
    cases entries with
    | nil => exact absurd (List.forall₂_nil_right_iff.mp gives) some
    | cons => exact spot

/-! ## A name that is looked for -/

/-- Services that hide a name, find one passage, and complete every other time. -/
def discreet : Services Bool
  | .analyze .., ready => (.ok [.null], ready)
  | .anonymize .., ready => (.ok "Who is <PERSON>?", ready)
  | .embed .., ready => (.ok [.ofNat 1], ready)
  | .query .., ready => (.ok [⟨"Ali, \"the lion\"", "Y", some "L"⟩], ready)
  | .complete .., ready => (if ready then .ok "A lion." else .error (.transport "reset"), !ready)

def discreetSetup : Setup Bool :=
  ⟨discreet, ⟨"en", 3, .ofQuotient false 3 10⟩, .enabled⟩

theorem log_of_getElem?_discreet :
    ∃ played, (Session.turns discreetSetup
        [[.user "Who is Ali?"], [.user "Who?"], [.assistant "Hm."], [.user "Ali?"]]
        ⟨true, .vacant, .empty⟩)[3]? = some played ∧
      ∃ first second : Answered, first.question = "Who is Ali?" ∧ second.question = "Ali?" ∧
        played.session.spot = .file (logText [first, second]) ∧
        readRows (logText [first, second]) = [["Question", "Context", "Answer"],
          [first.question, first.context, first.answer],
          [second.question, second.context, second.answer]] := by
  obtain ⟨played, here⟩ : ∃ played, (Session.turns discreetSetup
      [[.user "Who is Ali?"], [.user "Who?"], [.assistant "Hm."], [.user "Ali?"]]
      ⟨true, .vacant, .empty⟩)[3]? = some played := ⟨_, rfl⟩
  obtain ⟨-, log⟩ := log_of_getElem? discreetSetup rfl _ _ rfl here
  obtain ⟨entries, gives, spot, rows⟩ := log (by decide)
  cases gives with
  | cons first rest =>
    cases rest with
    | cons second rest =>
      cases rest
      exact ⟨played, here, _, _, (Option.some.inj first.question).symm,
        (Option.some.inj second.question).symm, spot, rows⟩

end CitedAnswers.Answering
