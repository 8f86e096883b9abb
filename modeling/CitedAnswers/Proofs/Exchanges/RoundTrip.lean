import CitedAnswers.Exchanges.Log
import CitedAnswers.Proofs.Exchanges.Reader

/-! # The log reads back

What is written to the log by any series of calls is read back field by field.  `Whole` is the
invariant: a file of whole rows leaves its reader before a row, so whatever row is appended next
begins there.  One call keeps it (`whole_extend`), hence a series of calls does
(`performAll_of_whole`).

The first call on a new or empty file puts the header before its row (`readRows_performAll`).  A log
that is never called stays without one (`no_header_without_calls`).
-/

namespace CitedAnswers.Exchanges

open CitedAnswers.Answering (Answered)

/-! ## Calls -/

inductive LogCall where
  /-- Appends an exchange and tells whether that could be done. -/
  | append (e : Answered)
  /-- Records an exchange, and tells nothing. -/
  | record (e : Answered)
  deriving DecidableEq, Repr

namespace LogCall

def exchange : LogCall → Answered
  | append e => e
  | record e => e

def fields (call : LogCall) : List String :=
  [call.exchange.question, call.exchange.context, call.exchange.answer]

def perform (log : Log) (call : LogCall) (spot : Spot) : Except WriteError Unit × Spot :=
  match call with
  | append e => log.append e spot
  | record e => (.ok (), log.record e spot)

def performAll (log : Log) : List LogCall → Spot → List (Except WriteError Unit) × Spot
  | [], spot => ([], spot)
  | call :: rest, spot =>
    let here := call.perform log spot
    let behind := performAll log rest here.2
    (here.1 :: behind.1, behind.2)

end LogCall

/-- Where the path can be written to, a call succeeds and extends what is there. -/
theorem perform_of_writable {spot : Spot} {content : String}
    (writable : spot.writable? = .ok content) (call : LogCall) :
    call.perform .enabled spot = (.ok (), .file (extend content call.exchange)) := by
  cases call <;> simp [LogCall.perform, LogCall.exchange, Log.append, Log.record, append, writable]

/-! ## Whole rows -/

/-- A text of whole rows: it ends with one, and it is read as these. -/
def Whole (content : String) (rows : List (List String)) : Prop :=
  (Reader.between []).read content.toList = .between rows

theorem Whole.readRows_eq {content : String} {rows : List (List String)}
    (whole : Whole content rows) : readRows content = rows := by
  rw [readRows, whole, Reader.finish_between]

/-- A row behind whole rows is one whole row more. -/
theorem Whole.append_row {content : String} {rows : List (List String)}
    (whole : Whole content rows) (field next : String) (more : List String) :
    Whole (content ++ writeRow (field :: next :: more)) (rows ++ [field :: next :: more]) := by
  unfold Whole
  rw [String.toList_append, Reader.read_append, whole, Reader.read_writeRow]

theorem whole_header : Whole (writeRow columns) [columns] :=
  Reader.read_writeRow "Question" "Context" ["Answer"] []

theorem append_writeRow_ne_empty (content : String) (fields : List String) :
    content ++ writeRow fields ≠ "" := by
  intro empty
  have nothing := congrArg String.toList empty
  rw [String.toList_append, writeRow, String.toList_ofList, ← List.append_assoc] at nothing
  exact List.append_ne_nil_of_right_ne_nil _ (List.cons_ne_nil '\n' []) nothing

/-! ## Appending -/

/-- A file that has content is extended by one row and nothing else. -/
theorem whole_extend {content : String} {rows : List (List String)} (nonempty : content ≠ "")
    (whole : Whole content rows) (call : LogCall) :
    Whole (extend content call.exchange) (rows ++ [call.fields]) := by
  rw [extend, if_neg nonempty]
  exact whole.append_row _ _ _

/-- An empty file is extended by the header and one row. -/
theorem whole_extend_empty (call : LogCall) :
    Whole (extend "" call.exchange) ([columns] ++ [call.fields]) := by
  rw [extend, if_pos rfl]
  exact whole_header.append_row _ _ _

/-- Calls on a file of whole rows add their rows in order. -/
theorem performAll_of_whole (calls : List LogCall) {content : String} {rows : List (List String)}
    (nonempty : content ≠ "") (whole : Whole content rows) :
    ∃ after, LogCall.performAll .enabled calls (.file content) =
        (calls.map fun _ => .ok (), .file after) ∧
      Whole after (rows ++ calls.map LogCall.fields) := by
  -- The file and its rows stay general: each call leaves others for the rest.
  induction calls generalizing content rows with
  | nil => exact ⟨content, rfl, by rw [List.map_nil, List.append_nil]; exact whole⟩
  | cons call rest ih =>
    have filled : extend content call.exchange ≠ "" := append_writeRow_ne_empty _ _
    obtain ⟨after, performed, read⟩ := ih filled (whole_extend nonempty whole call)
    have writable : (Spot.file content).writable? = .ok content := rfl
    refine ⟨after, ?_, ?_⟩
    · rw [LogCall.performAll, perform_of_writable writable, performed, List.map_cons]
    · rw [List.map_cons, List.append_cons]
      exact read

/-- Calls on a file that is new or empty all succeed, and it is read back as the header and the
fields of each call in order. -/
theorem readRows_performAll {spot : Spot} (fresh : spot.writable? = .ok "") (first : LogCall)
    (more : List LogCall) :
    ∃ content, LogCall.performAll .enabled (first :: more) spot =
        ((first :: more).map fun _ => .ok (), .file content) ∧
      readRows content =
        ["Question", "Context", "Answer"] :: (first :: more).map LogCall.fields := by
  have filled : extend "" first.exchange ≠ "" := append_writeRow_ne_empty _ _
  obtain ⟨content, performed, read⟩ := performAll_of_whole more filled (whole_extend_empty first)
  refine ⟨content, ?_, read.readRows_eq⟩
  rw [LogCall.performAll, perform_of_writable fresh, performed, List.map_cons]

theorem readRows_performAll_special :
    Spot.vacant.writable? = .ok "" ∧
      ∃ content, LogCall.performAll .enabled
          [.append ⟨"a, b", "say \"hi\"\r\n", ""⟩, .record ⟨"", " x ", "\"\n\n"⟩] .vacant =
            ([.ok (), .ok ()], .file content) ∧
        readRows content = [["Question", "Context", "Answer"], ["a, b", "say \"hi\"\r\n", ""],
          ["", " x ", "\"\n\n"]] :=
  ⟨rfl, readRows_performAll rfl (.append ⟨"a, b", "say \"hi\"\r\n", ""⟩)
    [.record ⟨"", " x ", "\"\n\n"⟩]⟩

/-- An empty file that no call is made on has no header. -/
theorem no_header_without_calls :
    ¬∀ (spot : Spot) (calls : List LogCall), spot.writable? = .ok "" →
      ∃ content, LogCall.performAll .enabled calls spot =
          (calls.map fun _ => .ok (), .file content) ∧
        readRows content = ["Question", "Context", "Answer"] :: calls.map LogCall.fields := by
  intro always
  obtain ⟨content, performed, rows⟩ := always (.file "") [] rfl
  cases performed
  exact absurd rows (by decide)

end CitedAnswers.Exchanges
