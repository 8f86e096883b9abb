import CitedAnswers.Json.Reader
import CitedAnswers.Proofs.Json.Numerals

/-! # Items and members

The loops over the items of a list and the members of an object, for any reader of an item
(`Reads`) or of what a name stands for (`ReadsMember`).  If the reader comes to the value of each
item, the loop comes to the list of the values (`readList_of_inside`), and likewise for members
(`readObject_of_inside`).
-/

namespace CitedAnswers.Json

open CitedAnswers.Text (Symbol symbols)

/-! ## White space -/

theorem isSpace_of_blank {gap : List Char} (blank : IsBlank gap) :
    ∀ s ∈ symbols gap, isSpace s = true := by
  intro s member
  obtain ⟨c, inside, rfl⟩ := List.mem_map.mp member
  rcases blank c inside with rfl | rfl | rfl | rfl <;> rfl

theorem skipSpace_blank {gap : List Char} (blank : IsBlank gap) (text : List Symbol) :
    skipSpace (symbols gap ++ text) = skipSpace text := by
  unfold skipSpace
  exact List.dropWhile_append_of_pos (isSpace_of_blank blank)

theorem skipSpace_of_not_isSpace {s : Symbol} (lexeme : isSpace s = false) (text : List Symbol) :
    skipSpace (s :: text) = s :: text :=
  List.dropWhile_cons_of_neg (by simp [lexeme])

theorem skipSpace_before {gap : List Char} (blank : IsBlank gap) {c : Char}
    (lexeme : isSpace (.char c) = false) (text : List Symbol) :
    skipSpace (symbols gap ++ .char c :: text) = .char c :: text := by
  rw [skipSpace_blank blank, skipSpace_of_not_isSpace lexeme]

theorem isBlank_nil : IsBlank [] := by simp [IsBlank]

/-- Whether a character can stand where a value begins. -/
def Begins (c : Char) : Prop :=
  isSpace (.char c) = false ∧ c ≠ ']' ∧ c ≠ '\x7d'

theorem begins_of_digit {c : Char} {d : Nat} (digit : digit? (.char c) = some d) : Begins c := by
  refine ⟨?_, ne_of_digit digit rfl, ne_of_digit digit rfl⟩
  simp [isSpace, ne_of_digit digit (x := ' ') rfl, ne_of_digit digit (x := '\n') rfl,
    ne_of_digit digit (x := '\t') rfl, ne_of_digit digit (x := '\r') rfl]

/-! ## Layouts before what is left -/

theorem symbols_enclosed (opener closer : Char) (text : List Char) (left : List Symbol) :
    symbols (opener :: text ++ [closer]) ++ left =
      .char opener :: (symbols text ++ .char closer :: left) := by
  simp

theorem symbols_inside (before text after : List Char) (left : List Symbol) :
    symbols (before ++ text ++ after) ++ left =
      symbols before ++ (symbols text ++ (symbols after ++ left)) := by
  simp

theorem symbols_listed (text after before others : List Char) (left : List Symbol) :
    symbols (text ++ after ++ ',' :: before ++ others) ++ left =
      symbols text ++ (symbols after ++ .char ',' ::
        (symbols before ++ (symbols others ++ left))) := by
  simp

theorem symbols_named (spelling before after text : List Char) (left : List Symbol) :
    symbols (quoted spelling ++ before ++ ':' :: after ++ text) ++ left =
      .char '"' :: (symbols spelling ++ .char '"' :: (symbols before ++ .char ':' ::
        (symbols after ++ (symbols text ++ left)))) := by
  simp [quoted]

/-! ## Loops -/

section Loops

variable {α β σ : Type} {P : List Char → α → Prop}

def Starts (P : List Char → α → Prop) : Prop :=
  ∀ ⦃text : List Char⦄ ⦃a : α⦄, P text a → ∃ c rest, text = c :: rest ∧ Begins c

/-- The reader comes to the value of what a text stands for, behind any white space. -/
def Reads (P : List Char → α → Prop) (read : List Symbol → Outcome β) (value : α → Option β) :
    Prop :=
  ∀ ⦃gap text : List Char⦄ ⦃a : α⦄ ⦃left : List Symbol⦄, IsBlank gap → P text a → Stops left →
    Came (read (symbols gap ++ (symbols text ++ left))) (value a) left

theorem Reads.here {read : List Symbol → Outcome β} {value : α → Option β}
    (reads : Reads P read value) {text : List Char} {a : α} (here : P text a) {left : List Symbol}
    (stops : Stops left) : Came (read (symbols text ++ left)) (value a) left :=
  reads isBlank_nil here stops

theorem Reads.map {γ : Type} {read : List Symbol → Outcome β} {value : α → Option β}
    (reads : Reads P read value) (f : β → γ) :
    Reads P (fun text => mapResult f (read text)) (fun a => (value a).map f) := by
  intro gap text a left blank here stops
  exact (reads blank here stops).mapResult f

theorem stops_comma (left : List Symbol) : Stops (.char ',' :: left) :=
  stops_cons (by decide) left

/-- A loop that may go on for as many turns as a text has characters may go on once. -/
theorem Starts.exists_succ (starts : Starts P) {text : List Char} {a : α} (here : P text a)
    {fuel : Nat} (enough : text.length ≤ fuel) : ∃ n, fuel = n + 1 := by
  obtain ⟨c, rest, rfl, -⟩ := starts here
  exact Nat.exists_eq_add_one_of_ne_zero (Nat.ne_zero_of_lt enough)

theorem Listed.starts (starts : Starts P) {text : List Char} {as : List α}
    (listed : Listed P text as) : ∃ c rest, text = c :: rest ∧ Begins c := by
  cases listed with
  | last here => exact starts here
  | cons here =>
    obtain ⟨c, rest, rfl, begins⟩ := starts here
    exact ⟨c, _, rfl, begins⟩

section Items

variable {item : List Symbol → Outcome β} {fuel : Nat} {text : List Symbol}

theorem readItems_failed {e : Failure} (failed : item text = .error e) :
    readItems item (fuel + 1) text = .error e := by
  rw [readItems, failed]

theorem readItems_last {b : β} {gap : List Char} {left : List Symbol} (blank : IsBlank gap)
    (read : item text = .ok (b, symbols gap ++ .char ']' :: left)) :
    readItems item (fuel + 1) text = .ok ([b], left) := by
  simp [readItems, read, skipSpace_before blank (c := ']') rfl]

theorem readItems_more {b : β} {after before : List Char} {c : Char} {next : List Symbol}
    (back : IsBlank after) (front : IsBlank before) (begins : Begins c)
    (read : item text =
      .ok (b, symbols after ++ .char ',' :: (symbols before ++ .char c :: next))) :
    readItems item (fuel + 1) text =
      mapResult (b :: ·) (readItems item fuel (.char c :: next)) := by
  obtain ⟨lexeme, noBracket, -⟩ := begins
  simp only [readItems, read, skipSpace_before back (c := ',') rfl, skipSpace_before front lexeme]
  cases readItems item fuel (.char c :: next) with
  | error e => simp [noBracket, mapResult]
  | ok read => simp [noBracket, mapResult]

end Items

theorem readItems_of_listed {item : List Symbol → Outcome β} {value : α → Option β}
    (starts : Starts P) (reads : Reads P item value) {text gap : List Char} {as : List α}
    (listed : Listed P text as) (blank : IsBlank gap) (left : List Symbol) {fuel : Nat}
    (enough : text.length ≤ fuel) :
    Came (readItems item fuel (symbols text ++ (symbols gap ++ .char ']' :: left)))
      (as.mapM value) left := by
  -- The loop has a turn for every character, and an item with the comma behind it takes two.
  induction listed generalizing fuel with
  | last here =>
    obtain ⟨fuel, rfl⟩ := starts.exists_succ here enough
    have closes : Stops (.char ']' :: left) := stops_cons (by decide) left
    rcases reads.here here (stops_blank blank closes) with
      ⟨b, found, read⟩ | ⟨missing, e, failed⟩
    · exact .inl ⟨[b], by simp [found], readItems_last blank read⟩
    · exact .inr ⟨by simp [missing], e, readItems_failed failed⟩
  | @cons text after before others a as here back front listed ih =>
    simp only [List.length_append, List.length_cons] at enough
    obtain ⟨fuel, rfl⟩ := starts.exists_succ here (show text.length ≤ fuel by omega)
    have shorter : others.length ≤ fuel := by omega
    have behind := ih shorter
    obtain ⟨d, next, rfl, begins⟩ := listed.starts starts
    rw [symbols_listed, symbols_cons, List.cons_append]
    rcases reads.here here (stops_blank back (stops_comma _)) with
      ⟨b, found, read⟩ | ⟨missing, e, failed⟩
    · refine came_of_eq (readItems_more back front begins read) ?_
      simpa [found, Option.map_eq_bind, Function.comp_def] using behind.mapResult (b :: ·)
    · exact .inr ⟨by simp [missing], e, readItems_failed failed⟩

theorem Inside.of_listed {text : List Char} {as : List α} (listed : Listed P text as) :
    Inside P text as := by
  simpa using Inside.items isBlank_nil listed isBlank_nil

theorem readList_of_inside {item : List Symbol → Outcome β} {value : α → Option β}
    (starts : Starts P) (reads : Reads P item value) {text : List Char} {as : List α}
    (inside : Inside P text as) (left : List Symbol) :
    Came (readList item (symbols text ++ .char ']' :: left)) (as.mapM value) left := by
  cases inside with
  | nothing blank =>
    have empty : readList item (symbols text ++ .char ']' :: left) = .ok ([], left) := by
      simp [readList, skipSpace_before blank (c := ']') rfl]
    exact came_of_eq empty (came_ok [] left)
  | @items before text after as front listed back =>
    obtain ⟨c, rest, rfl, lexeme, noBracket, -⟩ := listed.starts starts
    have entered : readList item
        (symbols (before ++ c :: rest ++ after) ++ .char ']' :: left) =
          readItems item (symbols (c :: rest) ++ (symbols after ++ .char ']' :: left)).length
            (symbols (c :: rest) ++ (symbols after ++ .char ']' :: left)) := by
      simp [readList, skipSpace_before front lexeme, noBracket]
    refine came_of_eq entered (readItems_of_listed starts reads listed back left ?_)
    simp [symbols]

/-! ## Members -/

theorem readColon_before {gap : List Char} (blank : IsBlank gap) (text : List Symbol) :
    readColon (symbols gap ++ .char ':' :: text) = .ok text := by
  simp [readColon, skipSpace_before blank (c := ':') rfl]

/-- What is gathered from members that have names. -/
def gather (step : σ → String → α → Option σ) (start : σ)
    (members : List (List Piece × α)) : Option σ :=
  members.foldlM (fun gathered (name, a) => (textOf? name).bind (step gathered · a)) start

theorem gather_cons (step : σ → String → α → Option σ) (start : σ)
    {pieces : List Piece} {name : String} (spelled : textOf? pieces = some name) (a : α)
    (members : List (List Piece × α)) :
    gather step start ((pieces, a) :: members) =
      (step start name a).bind fun gathered => gather step gathered members := by
  simp [gather, spelled]

/-- What is gathered behind a name comes to what the step makes of it. -/
def ReadsMember (P : List Char → α → Prop) (member : σ → String → List Symbol → Outcome σ)
    (step : σ → String → α → Option σ) : Prop :=
  ∀ ⦃before after text : List Char⦄ ⦃a : α⦄ ⦃left : List Symbol⦄ (gathered : σ) (name : String),
    IsBlank before → IsBlank after → P text a → Stops left →
      Came (member gathered name (symbols before ++ .char ':' ::
        (symbols after ++ (symbols text ++ left)))) (step gathered name a) left

section Members

variable {member : σ → String → List Symbol → Outcome σ} {step : σ → String → α → Option σ}
  {fuel : Nat} {gathered : σ} {text : List Symbol}

/-- Reads a name and what it names. -/
def readNamed (member : σ → String → List Symbol → Outcome σ) (gathered : σ)
    (text : List Symbol) : Outcome σ :=
  match readString (text.drop 1) with
  | .error e => .error e
  | .ok (name, rest) => member gathered name rest

theorem readNamed_of_named (reads : ReadsMember P member step) {text : List Char}
    {name : List Piece} {a : α} (named : Named P text (name, a)) (gathered : σ)
    {left : List Symbol} (stops : Stops left) :
    Came (readNamed member gathered (symbols text ++ left))
      ((textOf? name).bind (step gathered · a)) left := by
  cases named with
  | @member spelling before after text _ _ spells front back here =>
    rw [symbols_named, readNamed, List.drop_one, List.tail_cons]
    rcases readString_of_spells spells _ with ⟨n, found, read⟩ | ⟨missing, e, failed⟩
    · rw [read, found]
      exact reads gathered n front back here stops
    · rw [failed, missing]
      exact came_error e left

theorem readMembers_succ (fuel : Nat) (gathered : σ) (text : List Symbol) :
    readMembers member (fuel + 1) gathered text =
      match readNamed member gathered text with
      | .error e => .error e
      | .ok (gathered, rest) =>
        match skipSpace rest with
        | [] => failAt .endInObject []
        | s :: left =>
          if s = .char '\x7d' then .ok (gathered, left)
          else if s = .char ',' then
            match skipSpace left with
            | [] => failAt .endInValue []
            | t :: next =>
              if t = .char '"' then readMembers member fuel gathered (t :: next)
              else if t = .char '\x7d' then failPast .trailingComma (t :: next)
              else failPast .keyNotString (t :: next)
          else failPast .expectedObjectCommaOrEnd (s :: left) := by
  rw [readMembers, readNamed]
  cases readString (text.drop 1) <;> rfl

theorem readMembers_failed {e : Failure} (failed : readNamed member gathered text = .error e) :
    readMembers member (fuel + 1) gathered text = .error e := by
  rw [readMembers_succ, failed]

theorem readMembers_last {after : List Char} {left : List Symbol} {gathered' : σ}
    (back : IsBlank after)
    (read : readNamed member gathered text =
      .ok (gathered', symbols after ++ .char '\x7d' :: left)) :
    readMembers member (fuel + 1) gathered text = .ok (gathered', left) := by
  simp [readMembers_succ, read, skipSpace_before back (c := '\x7d') rfl]

theorem readMembers_more {after before : List Char} {next : List Symbol} {gathered' : σ}
    (back : IsBlank after) (front : IsBlank before)
    (read : readNamed member gathered text =
      .ok (gathered', symbols after ++ .char ',' :: (symbols before ++ .char '"' :: next))) :
    readMembers member (fuel + 1) gathered text =
      readMembers member fuel gathered' (.char '"' :: next) := by
  simp [readMembers_succ, read, skipSpace_before back (c := ',') rfl,
    skipSpace_before front (c := '"') rfl]

theorem starts_named : Starts (Named P) := by
  intro text entry named
  cases named with
  | member => exact ⟨_, _, rfl, by decide, by decide, by decide⟩

theorem quote_of_listed {text : List Char} {members : List (List Piece × α)}
    (listed : Listed (Named P) text members) : ∃ rest, text = '"' :: rest := by
  cases listed with
  | last here | cons here =>
    cases here with
    | member => exact ⟨_, rfl⟩

theorem readMembers_of_listed (reads : ReadsMember P member step) {text gap : List Char}
    {members : List (List Piece × α)} (listed : Listed (Named P) text members)
    (blank : IsBlank gap) (left : List Symbol) (gathered : σ) {fuel : Nat}
    (enough : text.length ≤ fuel) :
    Came (readMembers member fuel gathered (symbols text ++ (symbols gap ++ .char '\x7d' :: left)))
      (gather step gathered members) left := by
  induction listed generalizing fuel gathered with
  | @last text entry here =>
    obtain ⟨name, a⟩ := entry
    obtain ⟨fuel, rfl⟩ := Starts.exists_succ starts_named here enough
    have closes : Stops (.char '\x7d' :: left) := stops_cons (by decide) left
    rcases readNamed_of_named reads here gathered (stops_blank blank closes) with
      ⟨b, found, read⟩ | ⟨missing, e, failed⟩
    · exact .inl ⟨b, by simp [gather, found], readMembers_last blank read⟩
    · exact .inr ⟨by simp [gather, missing], e, readMembers_failed failed⟩
  | @cons text after before others entry members here back front listed ih =>
    obtain ⟨name, a⟩ := entry
    simp only [List.length_append, List.length_cons] at enough
    obtain ⟨fuel, rfl⟩ := Starts.exists_succ starts_named here
      (show text.length ≤ fuel by omega)
    have shorter : others.length ≤ fuel := by omega
    have behind := fun gathered => ih gathered shorter
    -- Behind a comma the loop goes on at a quote only, and every further member begins with one.
    obtain ⟨next, rfl⟩ := quote_of_listed listed
    rw [symbols_listed, symbols_cons, List.cons_append]
    rcases readNamed_of_named reads here gathered (stops_blank back (stops_comma _)) with
      ⟨b, found, read⟩ | ⟨missing, e, failed⟩
    · rw [readMembers_more back front read]
      simpa [gather, found] using behind b
    · exact .inr ⟨by simp [gather, missing], e, readMembers_failed failed⟩

theorem readObject_of_inside (reads : ReadsMember P member step) {text : List Char}
    {members : List (List Piece × α)} (inside : Inside (Named P) text members) (start : σ)
    (left : List Symbol) :
    Came (readObject member start (symbols text ++ .char '\x7d' :: left))
      (gather step start members) left := by
  cases inside with
  | nothing blank =>
    have empty : readObject member start (symbols text ++ .char '\x7d' :: left) =
        .ok (start, left) := by
      simp [readObject, skipSpace_before blank (c := '\x7d') rfl]
    exact came_of_eq empty (came_ok start left)
  | @items before text after _ front listed back =>
    obtain ⟨rest, rfl⟩ := quote_of_listed listed
    have entered : readObject member start
        (symbols (before ++ '"' :: rest ++ after) ++ .char '\x7d' :: left) =
          readMembers member
            (symbols ('"' :: rest) ++ (symbols after ++ .char '\x7d' :: left)).length start
            (symbols ('"' :: rest) ++ (symbols after ++ .char '\x7d' :: left)) := by
      simp [readObject, skipSpace_before front (c := '"') rfl]
    refine came_of_eq entered (readMembers_of_listed reads listed back left start ?_)
    simp [symbols]

end Members

end Loops

end CitedAnswers.Json
