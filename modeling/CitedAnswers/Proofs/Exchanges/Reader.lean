import CitedAnswers.Exchanges.Row

/-! # Reading rows back

A reader of comma-separated values takes a text character by character (`Reader.step`).  Fields are
divided by commas and rows by line ends, but not between quotes, where a quote that is written twice
stands for itself.  Rows of no character at all are passed over.

A written field is read back whatever stands around it (`read_writeField`), and so a written row is
read as one row more (`read_writeRow`): every quote that is opened in it is closed in it, so the
reader stands before a row again.
-/

namespace CitedAnswers.Exchanges

/-! ## The reader -/

inductive Place where
  /-- Before a row. -/
  | rowStart
  /-- Behind a comma. -/
  | fieldStart
  /-- In a field without quotes, or behind the quotes of one. -/
  | bare
  /-- Between quotes. -/
  | quoted
  /-- Behind a quote that closes the field unless another one follows. -/
  | closing
  deriving DecidableEq, Repr

/-- A reader: where it stands, the field and the fields of the row that it has taken so far, and the
rows before. -/
structure Reader where
  place : Place
  field : List Char
  fields : List String
  rows : List (List String)
  deriving DecidableEq, Repr

namespace Reader

/-- A reader before a row, behind these rows. -/
def between (rows : List (List String)) : Reader :=
  ⟨.rowStart, [], [], rows⟩

def isLineEnd (c : Char) : Bool :=
  c == '\n' || c == '\r'

def keep (place : Place) (c : Char) (r : Reader) : Reader :=
  { r with place := place, field := r.field ++ [c] }

def endField (r : Reader) : Reader :=
  ⟨.fieldStart, [], r.fields ++ [String.ofList r.field], r.rows⟩

def endRow (r : Reader) : Reader :=
  between (r.rows ++ [r.fields ++ [String.ofList r.field]])

def unquoted (c : Char) (r : Reader) : Reader :=
  if c = ',' then r.endField
  else if isLineEnd c then r.endRow
  else r.keep .bare c

def step (r : Reader) (c : Char) : Reader :=
  match r.place with
  | .rowStart =>
    if isLineEnd c then r
    else if c = '"' then { r with place := .quoted }
    else r.unquoted c
  | .fieldStart => if c = '"' then { r with place := .quoted } else r.unquoted c
  | .bare => r.unquoted c
  | .quoted => if c = '"' then { r with place := .closing } else r.keep .quoted c
  | .closing => if c = '"' then r.keep .quoted c else r.unquoted c

def read (r : Reader) (text : List Char) : Reader :=
  text.foldl step r

/-- The rows at the end of the text: a row that has been begun counts. -/
def finish (r : Reader) : List (List String) :=
  if r.place = .rowStart then r.rows else r.endRow.rows

end Reader

def readRows (text : String) : List (List String) :=
  ((Reader.between []).read text.toList).finish

namespace Reader

@[simp] theorem read_nil (r : Reader) : r.read [] = r := rfl

@[simp] theorem read_cons (r : Reader) (c : Char) (text : List Char) :
    r.read (c :: text) = (r.step c).read text := rfl

@[simp] theorem read_append (r : Reader) (text more : List Char) :
    r.read (text ++ more) = (r.read text).read more :=
  List.foldl_append

@[simp] theorem finish_between (rows : List (List String)) : (between rows).finish = rows := rfl

/-! ## Fields -/

/-- A character that needs no quotes is taken as it is wherever no quote is open. -/
theorem step_bare {r : Reader} {c : Char} (plain : needsQuotes c = false)
    (outside : r.place = .rowStart ∨ r.place = .fieldStart ∨ r.place = .bare) :
    r.step c = r.keep .bare c := by
  simp only [needsQuotes, Bool.or_eq_false_iff, beq_eq_false_iff_ne] at plain
  obtain ⟨⟨⟨comma, quote⟩, feed⟩, carriage⟩ := plain
  have inLine : isLineEnd c = false := by simp [isLineEnd, feed, carriage]
  rcases outside with here | here | here <;> simp [step, here, unquoted, comma, quote, inLine]

theorem read_bare {r : Reader} {cs : List Char} (plain : cs.any needsQuotes = false)
    (outside : r.place = .rowStart ∨ r.place = .fieldStart ∨ r.place = .bare) :
    r.read cs =
      ⟨if cs = [] then r.place else .bare, r.field ++ cs, r.fields, r.rows⟩ := by
  induction cs generalizing r with
  | nil => simp
  | cons c cs ih =>
    rw [List.any_cons, Bool.or_eq_false_iff] at plain
    rw [read_cons, step_bare plain.1 outside, ih plain.2 (.inr (.inr rfl))]
    simp [keep]

/-- Between quotes all characters are taken as they are, and doubled quotes once. -/
theorem read_doubleQuotes (field cs : List Char) (fields : List String)
    (rows : List (List String)) :
    read ⟨.quoted, field, fields, rows⟩ (doubleQuotes cs) =
      ⟨.quoted, field ++ cs, fields, rows⟩ := by
  induction cs generalizing field with
  | nil => simp [doubleQuotes]
  | cons c cs ih =>
    rw [doubleQuotes, List.flatMap_cons, read_append, ← doubleQuotes]
    by_cases quote : c = '"'
    · simp [quote, step, keep, ih]
    · simp [quote, step, keep, ih]

/-- Where a reader may stand behind a field: anywhere but between quotes, and before a row only if
it stood there and the field is empty. -/
def Behind (before : Place) (after : Place) : Prop :=
  after ≠ .quoted ∧ (after = .rowStart → before = .rowStart)

theorem read_writeField {r : Reader} (field : String) (empty : r.field = [])
    (opening : r.place = .rowStart ∨ r.place = .fieldStart) :
    ∃ after, Behind r.place after ∧
      r.read (writeField field) = ⟨after, field.toList, r.fields, r.rows⟩ := by
  have quoted : r.place ≠ .quoted := by
    rcases opening with here | here <;> simp [here]
  -- With quotes the reader ends behind the closing one; without, it is somewhere in the field, or
  -- has not moved if the field is empty.
  cases special : field.toList.any needsQuotes with
  | true =>
    have opened : r.step '"' = ⟨.quoted, [], r.fields, r.rows⟩ := by
      rcases opening with here | here <;> simp [step, here, empty, isLineEnd]
    refine ⟨.closing, ⟨by decide, nofun⟩, ?_⟩
    simp only [writeField, special, if_true, List.cons_append, read_cons, read_append, opened,
      read_doubleQuotes, read_nil]
    rfl
  | false =>
    have taken := read_bare special (opening.imp_right .inl)
    rw [empty, List.nil_append] at taken
    simp only [writeField, special, Bool.false_eq_true, if_false, taken]
    by_cases blank : field.toList = []
    · exact ⟨r.place, ⟨quoted, id⟩, by rw [if_pos blank]⟩
    · exact ⟨.bare, ⟨by decide, nofun⟩, by rw [if_neg blank]⟩

theorem step_comma {before after : Place} (behind : Behind before after) (field : List Char)
    (fields : List String) (rows : List (List String)) :
    step ⟨after, field, fields, rows⟩ ',' =
      ⟨.fieldStart, [], fields ++ [String.ofList field], rows⟩ := by
  obtain ⟨outside, _⟩ := behind
  cases after with
  | quoted => exact absurd rfl outside
  | rowStart | fieldStart | bare | closing => rfl

theorem step_lineEnd {after : Place} (behind : Behind .fieldStart after) (field : List Char)
    (fields : List String) (rows : List (List String)) :
    step ⟨after, field, fields, rows⟩ '\n' =
      between (rows ++ [fields ++ [String.ofList field]]) := by
  obtain ⟨outside, started⟩ := behind
  cases after with
  | quoted => exact absurd rfl outside
  | rowStart => exact absurd (started rfl) (by decide)
  | fieldStart | bare | closing => rfl

/-! ## Rows -/

/-- Written fields behind a comma are read to the end of the row. -/
theorem read_writeFields (field : String) (more : List String) (fields : List String)
    (rows : List (List String)) :
    read ⟨.fieldStart, [], fields, rows⟩ (writeFields (field :: more) ++ ['\n']) =
      between (rows ++ [fields ++ field :: more]) := by
  induction more generalizing field fields with
  | nil =>
    obtain ⟨after, behind, taken⟩ :=
      read_writeField (r := ⟨.fieldStart, [], fields, rows⟩) field rfl (.inr rfl)
    rw [writeFields, read_append, taken, read_cons, step_lineEnd behind, String.ofList_toList,
      read_nil]
  | cons next more ih =>
    obtain ⟨after, behind, taken⟩ :=
      read_writeField (r := ⟨.fieldStart, [], fields, rows⟩) field rfl (.inr rfl)
    rw [writeFields, List.append_assoc, read_append, taken, List.cons_append, read_cons,
      step_comma behind, String.ofList_toList, ih, List.append_assoc, List.singleton_append]

/-- A written row of two or more fields is read as one row more. -/
theorem read_writeRow (field next : String) (more : List String) (rows : List (List String)) :
    (between rows).read (writeRow (field :: next :: more)).toList =
      between (rows ++ [field :: next :: more]) := by
  obtain ⟨after, behind, taken⟩ := read_writeField (r := between rows) field rfl (.inl rfl)
  rw [writeRow, String.toList_ofList, writeFields, List.append_assoc, read_append, taken,
    List.cons_append, read_cons, step_comma behind, String.ofList_toList, read_writeFields]
  rfl

end Reader

end CitedAnswers.Exchanges
