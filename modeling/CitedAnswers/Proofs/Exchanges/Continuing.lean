import CitedAnswers.Proofs.Exchanges.RoundTrip
import Mathlib.Data.List.Induction

/-! # Rows behind any text

An append looks at no more of the file than whether it is empty, so the row that it writes goes on
from wherever the text before it has left a reader.  If that is in the midst of a row, the new row
is taken for the rest of it: the row has more in it afterwards than it had (`outgrown_writeRow`),
and what was the last row is found no longer.

So the new row is read as one row more exactly behind a line end, or in a file that is empty
(`readRows_extend_iff`).
-/

namespace CitedAnswers.Exchanges

open CitedAnswers.Answering (Answered)

/-- All quotes that are opened in a text are closed in it. -/
def IsClosed (content : String) : Prop :=
  ((Reader.between []).read content.toList).place ≠ .quoted

def EndsLine (content : String) : Prop :=
  ∃ c, content.toList.getLast? = some c ∧ Reader.isLineEnd c = true

namespace Reader

/-! ## Steps -/

/-- The row that would end here. -/
def row (r : Reader) : List String :=
  r.fields ++ [String.ofList r.field]

section Parts

variable (r : Reader) (place : Place) (c : Char)

@[simp] theorem place_keep : (r.keep place c).place = place := rfl

@[simp] theorem place_endField : r.endField.place = .fieldStart := rfl

@[simp] theorem place_endRow : r.endRow.place = .rowStart := rfl

@[simp] theorem rows_endRow : r.endRow.rows = r.rows ++ [r.row] := rfl

end Parts

/-- What reading one more character can do. -/
inductive Stepped (r : Reader) (c : Char) : Reader → Prop
  | blank (here : r.place = .rowStart) (feed : isLineEnd c = true) : Stepped r c r
  | quote (mark : c = '"') {place : Place} (inside : place = .quoted ∨ place = .closing) :
      Stepped r c { r with place := place }
  | keep {place : Place} (inside : place = .quoted ∨ place = .bare ∧ isLineEnd c = false) :
      Stepped r c (r.keep place c)
  | endField (comma : c = ',') : Stepped r c r.endField
  | endRow (here : r.place ≠ .rowStart) (feed : isLineEnd c = true) : Stepped r c r.endRow

theorem stepped_unquoted {r : Reader} (here : r.place ≠ .rowStart) (c : Char) :
    Stepped r c (r.unquoted c) := by
  unfold unquoted
  split
  · next comma => exact .endField comma
  · split
    · next feed => exact .endRow here feed
    · next inLine => exact .keep (.inr ⟨rfl, eq_false_of_ne_true inLine⟩)

theorem stepped_step (r : Reader) (c : Char) : Stepped r c (r.step c) := by
  unfold step
  cases here : r.place with
  | rowStart =>
    by_cases feed : isLineEnd c = true
    · simpa [feed] using .blank here feed
    · by_cases mark : c = '"'
      · simpa [feed, mark] using .quote rfl (.inl rfl)
      · by_cases comma : c = ','
        · simpa [feed, mark, unquoted, comma] using .endField rfl
        · simpa [feed, mark, unquoted, comma] using .keep (.inr ⟨rfl, eq_false_of_ne_true feed⟩)
  | fieldStart =>
    by_cases mark : c = '"'
    · simpa [mark] using .quote rfl (.inl rfl)
    · simpa [mark] using stepped_unquoted (by simp [here]) c
  | bare => exact stepped_unquoted (by simp [here]) c
  | quoted =>
    by_cases mark : c = '"'
    · simpa [mark] using .quote rfl (.inr rfl)
    · simpa [mark] using .keep (.inl rfl)
  | closing =>
    by_cases mark : c = '"'
    · simpa [mark] using .keep (.inl rfl)
    · simpa [mark] using stepped_unquoted (by simp [here]) c

/-! ## Where a text leaves a reader -/

/-- Where nothing of a row or of a field has been read, none of it is held. -/
structure Sound (r : Reader) : Prop where
  field : r.place = .rowStart ∨ r.place = .fieldStart → r.field = []
  fields : r.place = .rowStart → r.fields = []

theorem Sound.step {r next : Reader} {c : Char} (sound : Sound r) (stepped : Stepped r c next) :
    Sound next := by
  cases stepped with
  | blank => exact sound
  | quote _ inside => constructor <;> rcases inside with rfl | rfl <;> simp
  | keep inside => constructor <;> rcases inside with rfl | ⟨rfl, -⟩ <;> simp
  | endField | endRow => exact ⟨fun _ => rfl, by simp [Reader.endRow, between]⟩

theorem sound_read (text : List Char) : Sound ((between []).read text) := by
  induction text using List.reverseRecOn with
  | nil => exact ⟨fun _ => rfl, fun _ => rfl⟩
  | append_singleton text c ih => simpa using ih.step (stepped_step _ c)

theorem eq_between_of_rowStart {r : Reader} (sound : Sound r) (here : r.place = .rowStart) :
    r = between r.rows := by
  obtain ⟨place, field, fields, rows⟩ := r
  obtain rfl : place = .rowStart := here
  obtain rfl : field = [] := sound.field (.inl rfl)
  obtain rfl : fields = [] := sound.fields rfl
  rfl

theorem Stepped.place_eq_rowStart_iff {r next : Reader} {c : Char} (stepped : Stepped r c next)
    (closed : next.place ≠ .quoted) : next.place = .rowStart ↔ isLineEnd c = true := by
  cases stepped with
  | blank here feed => simp [here, feed]
  | quote mark inside => rcases inside with rfl | rfl <;> simp [mark, isLineEnd]
  | keep inside =>
    rcases inside with rfl | ⟨rfl, inLine⟩
    · exact absurd rfl closed
    · simp [inLine]
  | endField comma => simp [comma, isLineEnd]
  | endRow here feed => simp [feed]

theorem place_read_eq_rowStart_iff {content : String} (closed : IsClosed content) :
    ((between []).read content.toList).place = .rowStart ↔ content = "" ∨ EndsLine content := by
  rw [← String.toList_eq_nil_iff, EndsLine]
  unfold IsClosed at closed
  generalize content.toList = text at closed ⊢
  cases text using List.reverseRecOn with
  | nil => simp [between]
  | append_singleton text c =>
    simp only [read_append, read_cons, read_nil] at closed ⊢
    simp [(stepped_step _ c).place_eq_rowStart_iff closed]

/-! ## Rows that have gone on -/

/-- How much there is in a row: its characters, and its fields. -/
def weight (row : List String) : Nat :=
  (row.flatMap String.toList).length + row.length

theorem weight_row_keep (r : Reader) (place : Place) (c : Char) :
    weight (r.keep place c).row = weight r.row + 1 := by
  simp [weight, row, keep]
  omega

theorem weight_row_endField (r : Reader) : weight r.endField.row = weight r.row + 1 := by
  simp [weight, row, endField]
  omega

/-- A row in which another reader stood has gone on, or has ended with more in it. -/
inductive Outgrown (start : Reader) (r : Reader) : Prop
  | within (inside : r.place ≠ .rowStart) (same : r.rows = start.rows)
      (more : weight start.row < weight r.row)
  | behind {row : List String} {later : List (List String)}
      (rows : r.rows = start.rows ++ row :: later) (more : weight start.row < weight row)

theorem Outgrown.step {start r next : Reader} {c : Char} (outgrown : Outgrown start r)
    (stepped : Stepped r c next) : Outgrown start next := by
  cases outgrown with
  | within inside same more =>
    cases stepped with
    | blank here => exact absurd here inside
    | quote _ opened =>
      refine .within ?_ same more
      rcases opened with rfl | rfl <;> simp
    | keep opened =>
      refine .within ?_ same ?_
      · rcases opened with rfl | ⟨rfl, -⟩ <;> simp
      · rw [weight_row_keep]
        omega
    | endField =>
      refine .within (by simp) same ?_
      rw [weight_row_endField]
      omega
    | endRow => exact @Outgrown.behind _ _ _ [] (by simp [same]) more
  | behind rows more =>
    cases stepped with
    | endRow => exact .behind (by rw [rows_endRow, rows, List.append_assoc, List.cons_append]) more
    | blank | quote | keep | endField => exact .behind rows more

theorem Outgrown.read {start r : Reader} (outgrown : Outgrown start r) (text : List Char) :
    Outgrown start (r.read text) := by
  induction text generalizing r with
  | nil => exact outgrown
  | cons c text ih => exact ih (outgrown.step (stepped_step r c))

theorem Outgrown.finish {start r : Reader} (outgrown : Outgrown start r) :
    ∃ row later, r.finish = start.rows ++ row :: later ∧ weight start.row < weight row := by
  cases outgrown with
  | within inside same more =>
    exact ⟨r.row, [], by simp [Reader.finish, inside, same], more⟩
  | @behind row later rows more =>
    unfold Reader.finish
    split
    · exact ⟨row, later, rows, more⟩
    · exact ⟨row, later ++ [r.row], by simp [rows], more⟩

/-! ## Written rows -/

theorem exists_first_writeField (field : String) (rest : List Char) :
    ∃ c more, writeField field ++ ',' :: rest = c :: more ∧ isLineEnd c = false := by
  cases special : field.toList.any needsQuotes with
  | true =>
    have quoted : writeField field = '"' :: (doubleQuotes field.toList ++ ['"']) := if_pos special
    exact ⟨'"', _, by rw [quoted, List.cons_append], rfl⟩
  | false =>
    have bare : writeField field = field.toList := if_neg (ne_true_of_eq_false special)
    rw [bare]
    cases text : field.toList with
    | nil => exact ⟨',', rest, rfl, rfl⟩
    | cons c cs =>
      have plain : needsQuotes c = false := by simp_all
      simp [needsQuotes] at plain
      exact ⟨c, cs ++ ',' :: rest, rfl, by simp [isLineEnd, plain]⟩

theorem outgrown_keep (r : Reader) {place : Place} (inside : place ≠ .rowStart) (c : Char) :
    Outgrown r (r.keep place c) :=
  .within inside rfl (by simp [weight_row_keep])

theorem outgrown_step {r : Reader} {c : Char} (here : r.place = .bare ∨ r.place = .closing)
    (inLine : isLineEnd c = false) : Outgrown r (r.step c) := by
  have unquoted : Outgrown r (r.unquoted c) := by
    unfold Reader.unquoted
    split
    · exact .within (by simp) rfl (by simp [weight_row_endField])
    · simpa [inLine] using outgrown_keep r (by decide) c
  unfold step
  rcases here with here | here
  · simpa [here] using unquoted
  · simp only [here]
    split
    · exact outgrown_keep r (by decide) c
    · exact unquoted

/-- In the midst of a row, a written row is taken for the rest of it. -/
theorem outgrown_writeRow {r : Reader} (sound : Sound r) (closed : r.place ≠ .quoted)
    (inside : r.place ≠ .rowStart) (field next : String) (more : List String) :
    Outgrown r (r.read (writeRow (field :: next :: more)).toList) := by
  cases here : r.place with
  | rowStart => exact absurd here inside
  | quoted => exact absurd here closed
  | fieldStart =>
    -- Behind a comma the fields are read as they are, and put behind those before.
    obtain ⟨place, held, fields, rows⟩ := r
    obtain rfl : place = .fieldStart := here
    obtain rfl : held = [] := sound.field (.inr rfl)
    simp only [writeRow, String.toList_ofList, read_writeFields]
    refine @Outgrown.behind _ _ _ [] rfl ?_
    simp [weight, row]
    omega
  | bare | closing =>
    -- Anywhere else the first character already adds to what was the last field, or ends it.
    obtain ⟨c, rest, text, inLine⟩ :=
      exists_first_writeField field (writeFields (next :: more) ++ ['\n'])
    have split : (writeRow (field :: next :: more)).toList = c :: rest := by
      simp [writeRow, writeFields, ← text]
    rw [split, read_cons]
    exact (outgrown_step (by simp [here]) inLine).read rest

end Reader

/-! ## Appending -/

theorem extend_of_ne_empty {content : String} (nonempty : content ≠ "") (e : Answered) :
    extend content e = content ++ row e :=
  congrArg (· ++ row e) (if_neg nonempty)

theorem readRows_extend_of_endsLine {content : String} (nonempty : content ≠ "")
    (closed : IsClosed content) (ends : EndsLine content) (e : Answered) :
    readRows (extend content e) = readRows content ++ [[e.question, e.context, e.answer]] := by
  have here := (Reader.place_read_eq_rowStart_iff closed).mpr (.inr ends)
  have whole : Whole content _ := Reader.eq_between_of_rowStart (Reader.sound_read _) here
  rw [whole.readRows_eq]
  exact (whole_extend nonempty whole (.append e)).readRows_eq

theorem readRows_extend_of_not_endsLine {content : String} (nonempty : content ≠ "")
    (closed : IsClosed content) (within : ¬EndsLine content) (e : Answered) :
    ∃ before last row later, readRows content = before ++ [last] ∧
      readRows (extend content e) = before ++ row :: later ∧
        Reader.weight last < Reader.weight row := by
  have inside : ((Reader.between []).read content.toList).place ≠ .rowStart := by
    rw [ne_eq, Reader.place_read_eq_rowStart_iff closed]
    exact not_or.mpr ⟨nonempty, within⟩
  obtain ⟨row, later, read, more⟩ := (Reader.outgrown_writeRow (Reader.sound_read _) closed inside
    e.question e.context [e.answer]).finish
  refine ⟨((Reader.between []).read content.toList).rows, _, row, later, ?_, ?_, more⟩
  · simp [readRows, Reader.finish, inside]
  · rw [extend_of_ne_empty nonempty, readRows, String.toList_append, Reader.read_append]
    exact read

/-- An exchange can be appended to every file.  If all quotes in the file are closed, all rows but
the last stay as they are, and the exchange is read as one row more, behind the header where there
was nothing, if and only if the file was empty or ended with a line end. -/
theorem readRows_extend_iff {content : String} (closed : IsClosed content) (e : Answered) :
    Log.enabled.append e (.file content) = (.ok (), .file (extend content e)) ∧
    (readRows content).dropLast <+: readRows (extend content e) ∧
    (readRows (extend content e) =
        (if content = "" then [["Question", "Context", "Answer"]] else readRows content) ++
          [[e.question, e.context, e.answer]] ↔
      content = "" ∨ EndsLine content) := by
  refine ⟨rfl, ?_⟩
  by_cases empty : content = ""
  · have read := (whole_extend_empty (.append e)).readRows_eq
    subst empty
    exact ⟨List.nil_prefix, fun _ => .inl rfl, fun _ => read⟩
  · by_cases ends : EndsLine content
    · have read := readRows_extend_of_endsLine empty closed ends e
      refine ⟨?_, by simp [empty, ends, read]⟩
      rw [read]
      exact (List.dropLast_prefix _).trans (List.prefix_append _ _)
    · obtain ⟨before, last, row, later, old, new, more⟩ :=
        readRows_extend_of_not_endsLine empty closed ends e
      rw [old, new]
      refine ⟨by simp, ?_⟩
      simp only [empty, ends, if_false, or_false, iff_false]
      intro same
      -- Where the last row was there is one with more in it.
      have here : row = last := by simpa using congrArg (·[before.length]?) same
      rw [here] at more
      exact absurd more (Nat.lt_irrefl _)

/-- A log that was cut off before the last line end. -/
def cutOff : String := "Question,Context,Answer\nq1,\"c,1\",a1"

theorem readRows_extend_iff_cutOff :
    IsClosed cutOff ∧ readRows cutOff = [["Question", "Context", "Answer"], ["q1", "c,1", "a1"]] ∧
      readRows (extend cutOff ⟨"q2", "c2", "a2"⟩) ≠ readRows cutOff ++ [["q2", "c2", "a2"]] ∧
      readRows (extend cutOff ⟨"q2", "c2", "a2"⟩) =
        [["Question", "Context", "Answer"], ["q1", "c,1", "a1q2", "c2", "a2"]] := by
  have closed : IsClosed cutOff := by
    unfold IsClosed
    decide
  have within : ¬(cutOff = "" ∨ EndsLine cutOff) := by
    rintro (empty | ⟨c, last, feed⟩)
    · exact absurd empty (by decide)
    · obtain rfl : '1' = c := Option.some.inj last
      exact absurd feed (by decide)
  obtain ⟨-, -, read⟩ := readRows_extend_iff closed ⟨"q2", "c2", "a2"⟩
  exact ⟨closed, by decide, fun same => within (read.mp same), by decide⟩

end CitedAnswers.Exchanges
