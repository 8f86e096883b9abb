import CitedAnswers.Proofs.Json.Loops

/-! # Reading what is laid out

The value of a tree (`Tree.value?`) is there if its strings are text, its numbers are in range, and
it opens no more lists and objects at once than it may.  Of every text that lays out a tree exactly
this value is read (`reads_value`).
-/

namespace CitedAnswers.Json

open CitedAnswers.Text (Symbol symbols)

/-- The value of a tree that opens at most `depth` lists and objects at once. -/
def Tree.value? : (depth : Nat) → Tree → Option Json
  | _, .null => some .null
  | _, .bool b => some (.bool b)
  | _, .number n => n.value.toOption.map .number
  | _, .string pieces => (textOf? pieces).map .string
  | 0, .array _ | 0, .object _ => none
  | depth + 1, .array items => (items.mapM (value? depth)).map .array
  | depth + 1, .object members =>
    (gather (fun before name tree => (value? depth tree).map (insertMember name · before)) []
      members).map .object

/-! ## First characters -/

theorem starts_lays : Starts Lays := by
  intro text tree lays
  cases lays with
  | null | true | false | string | array | object =>
    exact ⟨_, _, rfl, by decide, by decide, by decide⟩
  | number writes =>
    cases writes with
    | plain _ magnitude =>
      obtain ⟨d, rest, small, rfl⟩ := digit_of_writes magnitude
      exact ⟨_, rest, rfl, begins_of_digit (digit?_digitChar small)⟩
    | minus => exact ⟨_, _, rfl, by decide, by decide, by decide⟩

/-! ## Values of trees -/

theorem readValue_blank {gap : List Char} (blank : IsBlank gap) (depth : Nat)
    (text : List Symbol) : readValue depth (symbols gap ++ text) = readValue depth text := by
  unfold readValue
  rw [skipSpace_blank blank]

theorem readValue_of_digit {c : Char} {d : Nat} (digit : digit? (.char c) = some d) (depth : Nat)
    (rest : List Symbol) :
    readValue depth (.char c :: rest) =
      mapResult .number (readNumber false (.char c :: rest)) := by
  obtain ⟨lexeme, -⟩ := begins_of_digit digit
  cases depth <;>
    simp [readValue, skipSpace_of_not_isSpace lexeme, digit, ne_of_digit digit (x := 'n') rfl,
      ne_of_digit digit (x := 't') rfl, ne_of_digit digit (x := 'f') rfl,
      ne_of_digit digit (x := '-') rfl]

theorem readValue_of_minus (depth : Nat) (rest : List Symbol) :
    readValue depth (.char '-' :: rest) = mapResult .number (readNumber true rest) := by
  cases depth <;> rfl

theorem readValue_of_quote (depth : Nat) (rest : List Symbol) :
    readValue depth (.char '"' :: rest) = mapResult .string (readString rest) := by
  cases depth <;> rfl

theorem readValue_of_bracket (depth : Nat) (rest : List Symbol) :
    readValue (depth + 1) (.char '[' :: rest) =
      mapResult .array (readList (readValue depth) rest) := rfl

theorem readValue_of_brace (depth : Nat) (rest : List Symbol) :
    readValue (depth + 1) (.char '\x7b' :: rest) =
      mapResult .object (readObject (fun members name text =>
        match readColon text with
        | .error e => .error e
        | .ok text => mapResult (insertMember name · members) (readValue depth text)) [] rest) :=
  rfl

/-- The value of a tree is read wherever a text lays it out. -/
theorem reads_value (depth : Nat) : Reads Lays (readValue depth) (Tree.value? depth) := by
  intro gap text tree left blank lays stops
  rw [readValue_blank blank]
  -- Items and members are read one level deeper, so the depth carries the induction.
  cases lays with
  | null =>
    rw [Tree.value?]
    cases depth <;> exact came_ok Json.null left
  | true => cases depth <;> exact came_ok (Json.bool _) left
  | false => cases depth <;> exact came_ok (Json.bool _) left
  | number writes =>
    rw [Tree.value?]
    cases writes with
    | plain sign magnitude =>
      have read := readNumber_of_writes magnitude stops
      obtain ⟨d, rest, small, rfl⟩ := digit_of_writes magnitude
      rw [sign] at read
      rw [symbols_cons, List.cons_append, readValue_of_digit (digit?_digitChar small)]
      exact read.mapResult Json.number
    | minus sign magnitude =>
      have read := readNumber_of_writes magnitude stops
      rw [sign] at read
      rw [symbols_cons, List.cons_append, readValue_of_minus]
      exact read.mapResult Json.number
  | @string text pieces spells =>
    rw [quoted, symbols_enclosed, readValue_of_quote, Tree.value?]
    exact (readString_of_spells spells left).mapResult Json.string
  | @array text items inside =>
    rw [symbols_enclosed]
    cases depth with
    | zero => exact came_error _ left
    | succ depth =>
      rw [readValue_of_bracket, Tree.value?]
      exact (readList_of_inside starts_lays (reads_value depth) inside left).mapResult Json.array
  | @object text members inside =>
    rw [symbols_enclosed]
    cases depth with
    | zero => exact came_error _ left
    | succ depth =>
      rw [readValue_of_brace, Tree.value?]
      refine (readObject_of_inside ?_ inside [] left).mapResult Json.object
      intro before after text tree left gathered name front back here stops
      simp only [readColon_before front]
      exact (reads_value depth back here stops).mapResult (insertMember name · gathered)
termination_by depth

/-! ## Whole documents -/

theorem readDocument_of_reads {α β : Type} {P : List Char → α → Prop}
    {read : List Symbol → Outcome β} {value : α → Option β} {before text after : List Char} {a : α}
    (reads : Reads P read value) (front : IsBlank before) (here : P text a)
    (back : IsBlank after) {b : β} (found : value a = some b) :
    readDocument read (symbols (before ++ text ++ after)) = .ok b := by
  have shape := symbols_inside before text after []
  rw [List.append_nil] at shape
  have ends : skipSpace (symbols after ++ []) = [] := skipSpace_blank back []
  rcases reads front here (stops_blank back stops_nil) with ⟨_, found', read⟩ | ⟨missing, -⟩
  · cases found.symm.trans found'
    rw [shape, readDocument, read]
    simp only [ends]
  · rw [found] at missing
    cases missing

/-- A document that lays something out is read to the value of that and to nothing else. -/
theorem value_of_readDocument {α β : Type} {P : List Char → α → Prop}
    {read : List Symbol → Outcome β} {value : α → Option β} {before text after : List Char} {a : α}
    (reads : Reads P read value) (front : IsBlank before) (here : P text a)
    (back : IsBlank after) {b : β}
    (ok : readDocument read (symbols (before ++ text ++ after)) = .ok b) : value a = some b := by
  have shape := symbols_inside before text after []
  rw [List.append_nil] at shape
  rw [shape, readDocument] at ok
  rcases reads front here (stops_blank back stops_nil) with ⟨c, found, read⟩ | ⟨-, e, failed⟩
  · have ends : skipSpace (symbols after ++ []) = [] := skipSpace_blank back []
    simp only [read, ends] at ok
    cases ok
    exact found
  · simp only [failed] at ok
    cases ok

end CitedAnswers.Json
