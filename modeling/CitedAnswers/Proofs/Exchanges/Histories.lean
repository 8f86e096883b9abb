import CitedAnswers.Proofs.Exchanges.RoundTrip

/-! # The log amid changes from outside

The log keeps no memory of its file.  What a call does depends on what stands at the path when it is
made, so a history of calls and of changes from outside can be told moment by moment.

An append needs a file, or a place where one can be made; it leaves the octets that are there in
front of what it adds, and one that fails leaves everything as it is (`append_cases`).  The main
statement is `moment_of_history`, of every moment of every history.
-/

namespace CitedAnswers.Exchanges

open CitedAnswers.Answering (Answered)

/-! ## Histories -/

/-- A change of what stands at the path of a log, made by others. -/
inductive Change where
  | replaceText (content : String)
  | removeFile
  | makeParent
  | makeDirectory
  deriving DecidableEq, Repr

def Change.apply : Change → Spot → Spot
  | replaceText content, spot => (spot.replaceText content).1
  | removeFile, spot => spot.removeFile.1
  | makeParent, spot => spot.makeParent.1
  | makeDirectory, spot => spot.makeDirectory.1

inductive LogEvent where
  | call (call : LogCall)
  | change (change : Change)
  deriving DecidableEq, Repr

/-- An event with what stood at the path before it and stands there after it, and what a call
told. -/
structure Moment where
  event : LogEvent
  before : Spot
  told : Except WriteError Unit
  after : Spot

def LogEvent.moment (log : Log) (event : LogEvent) (spot : Spot) : Moment :=
  match event with
  | call c => ⟨event, spot, (c.perform log spot).1, (c.perform log spot).2⟩
  | change c => ⟨event, spot, .ok (), c.apply spot⟩

def history (log : Log) : List LogEvent → Spot → List Moment
  | [], _ => []
  | event :: rest, spot =>
    let here := LogEvent.moment log event spot
    here :: history log rest here.after

theorem exists_event_of_mem_history {log : Log} {events : List LogEvent} {start : Spot}
    {m : Moment} (here : m ∈ history log events start) :
    ∃ event spot, m = LogEvent.moment log event spot := by
  -- Each event leaves another spot to the rest of the history.
  induction events generalizing start with
  | nil => cases here
  | cons event rest ih =>
    cases here with
    | head => exact ⟨event, start, rfl⟩
    | tail _ behind => exact ih behind

/-! ## Appending -/

theorem writable?_eq_ok {spot : Spot} {content : String} (writable : spot.writable? = .ok content) :
    spot = .file content ∨ spot = .vacant ∧ content = "" := by
  cases spot with
  | file text =>
    cases writable
    exact .inl rfl
  | directory | blocked => cases writable
  | absent first more =>
    -- A file can be made only where its own name is all that is missing, and a plain one.
    cases more with
    | cons next more => cases first <;> simp [Spot.writable?, Spot.obstacle?] at writable <;> grind
    | nil =>
      cases first with
      | plain =>
        cases writable
        exact .inr ⟨rfl, rfl⟩
      | folder | overlong | broken => cases writable

/-- The text that stands at a path, where no file counts as an empty one. -/
def Spot.text (spot : Spot) : String :=
  spot.content?.getD ""

theorem append_cases (e : Answered) (spot : Spot) :
    ((∃ content, spot = .file content) ∨ spot = .vacant) ∧
        append e spot = (.ok (), .file (extend spot.text e)) ∨
      ¬((∃ content, spot = .file content) ∨ spot = .vacant) ∧
        ∃ error, append e spot = (.error error, spot) := by
  cases writable : spot.writable? with
  | ok content =>
    have appended : append e spot = (.ok (), .file (extend content e)) := by
      simp [append, writable]
    rcases writable?_eq_ok writable with rfl | ⟨rfl, rfl⟩
    · exact .inl ⟨.inl ⟨content, rfl⟩, appended⟩
    · exact .inl ⟨.inr rfl, appended⟩
  | error error =>
    refine .inr ⟨?_, error, by simp [append, writable]⟩
    rintro (⟨content, rfl⟩ | rfl) <;> cases writable

theorem extend_eq (content : String) (e : Answered) :
    extend content e =
      content ++ (if content = "" then "Question,Context,Answer\n" else "") ++ row e := by
  have header : writeRow columns = "Question,Context,Answer\n" := by decide
  unfold extend
  split <;> simp_all

theorem readRows_row (e : Answered) : readRows (row e) = [[e.question, e.context, e.answer]] := by
  have whole : Whole (row e) ([] ++ [[e.question, e.context, e.answer]]) :=
    Reader.read_writeRow e.question e.context [e.answer] []
  exact whole.readRows_eq

/-! ## Moments -/

/-- In every history, an append succeeds exactly where there is a file or where one can be made; it
then leaves the octets that were there, the header if there were none, and its row.  One that fails
changes nothing.  A record leaves what an append would, and tells of no error.  A log that is
not kept changes nothing. -/
theorem moment_of_history (events : List LogEvent) (start : Spot) {log : Log} {m : Moment}
    (here : m ∈ history log events start) :
    (log = .enabled → ∀ e, m.event = .call (.append e) →
      (m.told = .ok () ↔ (∃ content, m.before = .file content) ∨ m.before = .vacant) ∧
      (m.told = .ok () → ∃ content, m.after = .file content ∧
        content.toUTF8 = m.before.text.toUTF8 ++
          (if m.before.text = "" then "Question,Context,Answer\n" else "").toUTF8 ++
          (row e).toUTF8 ∧
        readRows (row e) = [[e.question, e.context, e.answer]]) ∧
      (m.told ≠ .ok () → m.after = m.before)) ∧
    (log = .enabled → ∀ e, m.event = .call (.record e) →
      m.told = .ok () ∧ m.after = (LogEvent.moment log (.call (.append e)) m.before).after) ∧
    (log = .disabled → ∀ call, m.event = .call call → m.told = .ok () ∧ m.after = m.before) := by
  obtain ⟨event, spot, rfl⟩ := exists_event_of_mem_history here
  cases event with
  | change c =>
    refine ⟨?_, ?_, ?_⟩ <;> rintro rfl _ ⟨⟩
  | call c =>
    refine ⟨?_, ?_, ?_⟩
    · rintro rfl e called
      cases called
      rcases append_cases e spot with ⟨writable, appended⟩ | ⟨refused, error, failed⟩
      · simp [LogEvent.moment, LogCall.perform, Log.append, appended, writable, extend_eq,
          readRows_row]
      · simp [LogEvent.moment, LogCall.perform, Log.append, failed, refused]
    · rintro rfl e called
      cases called
      exact ⟨rfl, rfl⟩
    · rintro rfl call called
      cases call <;> cases called <;> exact ⟨rfl, rfl⟩

/-- A log whose file is cut off and then gives way to a directory. -/
def disturbed : List LogEvent := [
  .call (.record ⟨"Who?", "", "I."⟩),
  .change (.replaceText "Question"),
  .call (.append ⟨"a, b", "c", "d"⟩),
  .change .removeFile,
  .change .makeDirectory,
  .call (.append ⟨"q", "c", "a"⟩)]

theorem moment_of_history_disturbed :
    (∃ m ∈ history .enabled disturbed .vacant, m.before = .file "Question" ∧ m.told = .ok () ∧
      ∃ content, m.after = .file content ∧
        content.toUTF8 = "Question".toUTF8 ++ "".toUTF8 ++ (row ⟨"a, b", "c", "d"⟩).toUTF8) ∧
    ∃ m ∈ history .enabled disturbed .vacant, m.before = .directory ∧ m.told ≠ .ok () ∧
      m.after = .directory := by
  constructor
  · have member : ⟨.call (.append ⟨"a, b", "c", "d"⟩), .file "Question", .ok (),
        .file (extend "Question" ⟨"a, b", "c", "d"⟩)⟩ ∈ history .enabled disturbed .vacant :=
      List.mem_of_getElem? (i := 2) rfl
    obtain ⟨appended, -, -⟩ := moment_of_history disturbed .vacant member
    obtain ⟨-, extended, -⟩ := appended rfl _ rfl
    obtain ⟨content, after, octets, -⟩ := extended rfl
    exact ⟨_, member, rfl, rfl, content, after, octets⟩
  · have member : ⟨.call (.append ⟨"q", "c", "a"⟩), .directory, .error .isDirectory, .directory⟩ ∈
        history .enabled disturbed .vacant := List.mem_of_getElem? (i := 5) rfl
    obtain ⟨appended, -, -⟩ := moment_of_history disturbed .vacant member
    obtain ⟨succeeds, -, kept⟩ := appended rfl _ rfl
    have failed : (Except.error WriteError.isDirectory : Except WriteError Unit) ≠ .ok () := nofun
    exact ⟨_, member, rfl, failed, kept failed⟩

theorem ofPath_of_overlong {cs : List Char} (noSlash : Text.pieces '/' cs = [cs])
    (noNul : Char.ofNat 0 ∉ cs) (proper : Name.isRelative (String.ofList cs) = false)
    (overlong : Name.limit < (String.ofList cs).utf8ByteSize) :
    Spot.ofPath (String.ofList cs) = .absent .overlong [] := by
  have nonempty : String.ofList cs ≠ "" := by
    intro none
    rw [none] at overlong
    cases overlong
  simp [Spot.ofPath, Name.missing, noSlash, nonempty, proper, Name.ofPieces, Name.ofLastPiece,
    Name.ofPiece, noNul, overlong]

/-- Nothing stands at a name that is too long and the directory around it is there, but an append
does not succeed. -/
theorem no_append_at_overlong_name :
    ¬∀ m ∈ history .enabled [.call (.append ⟨"q", "c", "a"⟩)]
        (Spot.ofPath (String.ofList (List.replicate 256 'n'))),
      (m.told = .ok () ↔
        (∃ content, m.before = .file content) ∨ ∃ name, m.before = .absent name []) := by
  intro always
  have spot : Spot.ofPath (String.ofList (List.replicate 256 'n')) = .absent .overlong [] :=
    ofPath_of_overlong (by decide +kernel) (by decide) (by decide +kernel) (by decide +kernel)
  rw [spot] at always
  have told := (always _ List.mem_cons_self).mpr (.inr ⟨.overlong, rfl⟩)
  cases told

end CitedAnswers.Exchanges
