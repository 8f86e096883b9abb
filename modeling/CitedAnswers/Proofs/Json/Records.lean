import CitedAnswers.Proofs.Json.Documents
import CitedAnswers.Proofs.Json.Skipping

/-! # Decoders on what is laid out

A decoder comes to a value that depends on the tree alone: not on the white space, the spelling of
the strings or the place of the tree in the text.  Of a record in the form of an object it takes the
members that the fields name, each at most once, and passes over all others (`reads_record`).
-/

namespace CitedAnswers.Json

open CitedAnswers.Text (Symbol symbols)
open CitedAnswers.Number (Binary32)

/-! ## How trees begin -/

/-- The characters that a tree of this kind may begin with. -/
def Tree.openers : Tree → List Char
  | .null => ['n']
  | .bool _ => ['t', 'f']
  | .number _ => ['-', '0', '1', '2', '3', '4', '5', '6', '7', '8', '9']
  | .string _ => ['"']
  | .array _ => ['[']
  | .object _ => ['\x7b']

theorem opener_of_lays {text : List Char} {tree : Tree} (lays : Lays text tree) :
    ∃ c rest, text = c :: rest ∧ isSpace (.char c) = false ∧ c ∈ tree.openers := by
  obtain ⟨c, rest, rfl, lexeme, -⟩ := starts_lays lays
  refine ⟨c, rest, rfl, lexeme, ?_⟩
  have table : ∀ d < 10, Nat.digitChar d ∈
      ['-', '0', '1', '2', '3', '4', '5', '6', '7', '8', '9'] := by
    decide
  generalize same : c :: rest = text at lays
  cases lays with
  | null | true | false | string | array | object =>
    cases same
    simp [Tree.openers]
  | number writes =>
    cases writes with
    | plain sign magnitude =>
      obtain ⟨d, _, small, rfl⟩ := digit_of_writes magnitude
      cases same
      exact table d small
    | minus =>
      cases same
      simp [Tree.openers]

/-! ## Refusing -/

theorem came_of_refused {α : Type} {outcome : Outcome α} {found : Option α} {wanted : Wanted}
    {text left : List Symbol} (refused : outcome = refuse wanted text) (missing : found = none) :
    Came outcome found left := by
  obtain ⟨e, failed⟩ : ∃ e, (refuse wanted text : Outcome α) = .error e := refuse_error wanted text
  exact .inr ⟨missing, e, refused.trans failed⟩

/-! ## Scalars -/

def Tree.text? : Tree → Option String
  | .string pieces => textOf? pieces
  | _ => none

def Tree.single? : Tree → Option Binary32
  | .number n => n.value.toOption.map Decoder.toSingle
  | _ => none

theorem reads_string (depth : Nat) : Reads Lays (Decoder.string depth) Tree.text? := by
  intro gap text tree left blank lays stops
  obtain ⟨c, rest, same, lexeme, opener⟩ := opener_of_lays lays
  have refused (noQuote : c ≠ '"') (missing : tree.text? = none) :
      Came (Decoder.string depth (symbols gap ++ (symbols text ++ left))) tree.text? left := by
    have failed : Decoder.string depth (symbols gap ++ (symbols text ++ left)) =
        refuse .string (.char c :: (symbols rest ++ left)) := by
      simp [Decoder.string, same, skipSpace_before blank lexeme, noQuote]
    exact came_of_refused failed missing
  cases lays with
  | @string text pieces spells =>
    refine came_of_eq ?_ (readString_of_spells spells left)
    simp [Decoder.string, quoted, skipSpace_before blank (c := '"') rfl]
  | null | true | false | number | array | object =>
    refine refused ?_ rfl
    rintro rfl
    simp [Tree.openers] at opener

theorem reads_single (depth : Nat) : Reads Lays (Decoder.single depth) Tree.single? := by
  intro gap text tree left blank lays stops
  obtain ⟨c, rest, same, lexeme, opener⟩ := opener_of_lays lays
  have refused (noMinus : c ≠ '-') (noDigit : digit? (.char c) = none)
      (missing : tree.single? = none) :
      Came (Decoder.single depth (symbols gap ++ (symbols text ++ left))) tree.single? left := by
    have failed : Decoder.single depth (symbols gap ++ (symbols text ++ left)) =
        refuse .single (.char c :: (symbols rest ++ left)) := by
      simp [Decoder.single, same, skipSpace_before blank lexeme, noMinus, noDigit]
    exact came_of_refused failed missing
  cases lays with
  | number writes =>
    cases writes with
    | plain sign magnitude =>
      have read := readNumber_of_writes magnitude stops
      obtain ⟨d, others, small, rfl⟩ := digit_of_writes magnitude
      have digit := digit?_digitChar small
      obtain ⟨lexeme, -⟩ := begins_of_digit digit
      refine came_of_eq ?_ (read.mapResult Decoder.toSingle)
      simp [Decoder.single, skipSpace_before blank lexeme, digit,
        ne_of_digit digit (x := '-') rfl, sign]
    | minus sign magnitude =>
      refine came_of_eq ?_ ((readNumber_of_writes magnitude stops).mapResult Decoder.toSingle)
      simp [Decoder.single, skipSpace_before blank (c := '-') rfl, sign]
  | null | true | false | string | array | object =>
    simp only [Tree.openers, List.mem_cons, List.not_mem_nil, or_false] at opener
    refine refused ?_ ?_ rfl
    · rintro rfl
      simp at opener
    · rcases opener with rfl | rfl <;> rfl

/-! ## Lists -/

def Tree.list? {α : Type} (value : Nat → Tree → Option α) : (depth : Nat) → Tree → Option (List α)
  | depth + 1, .array items => items.mapM (value depth)
  | _, _ => none

theorem reads_list {α : Type} {d : Decoder α} {value : Nat → Tree → Option α}
    (reads : ∀ depth, Reads Lays (d depth) (value depth)) (depth : Nat) :
    Reads Lays (Decoder.list d depth) (Tree.list? value depth) := by
  intro gap text tree left blank lays stops
  obtain ⟨c, rest, same, lexeme, opener⟩ := opener_of_lays lays
  have refused (noBracket : c ≠ '[') (missing : tree.list? value depth = none) :
      Came (Decoder.list d depth (symbols gap ++ (symbols text ++ left))) (tree.list? value depth)
        left := by
    have failed : Decoder.list d depth (symbols gap ++ (symbols text ++ left)) =
        refuse .sequence (.char c :: (symbols rest ++ left)) := by
      simp [Decoder.list, same, skipSpace_before blank lexeme, noBracket]
    exact came_of_refused failed missing
  cases lays with
  | @array text items inside =>
    cases depth with
    | zero =>
      refine .inr ⟨rfl, ?_⟩
      simp [Decoder.list, skipSpace_before blank (c := '[') rfl, failPast]
    | succ depth =>
      refine came_of_eq ?_ (readList_of_inside starts_lays (reads depth) inside left)
      simp [Decoder.list, skipSpace_before blank (c := '[') rfl]
  | null | true | false | number | string | object =>
    refine refused ?_ (by cases depth <;> rfl)
    rintro rfl
    simp [Tree.openers] at opener

/-! ## Records -/

namespace Record

variable {σ α : Type} (r : Record σ α) (take : String → (depth : Nat) → σ → Tree → Option σ)

/-- What a member of the object form adds to what was gathered. -/
def step (depth : Nat) (gathered : σ) (name : String) (tree : Tree) : Option σ :=
  match r.field? name with
  | some f => if f.isSet gathered then none else take name depth gathered tree
  | none => some gathered

/-- What the items of the list form add to what was gathered, from a field on. -/
def fill (depth : Nat) : List (Field σ) → List Tree → σ → Option σ
  | [], [], gathered => some gathered
  | [], _ :: _, _ => none
  | f :: fs, [], gathered => if f.mayEnd then fill depth fs [] gathered else none
  | f :: fs, tree :: trees, gathered =>
    (take f.name depth gathered tree).bind (fill depth fs trees)

def value? : (depth : Nat) → Tree → Option α
  | depth + 1, .array items =>
    (fill take depth r.fields items r.start).bind fun g => (r.finish g).toOption
  | depth + 1, .object members =>
    (gather (r.step take depth) r.start members).bind fun g => (r.finish g).toOption
  | _, _ => none

variable {r take}

theorem readFields_end {gap : List Char} (blank : IsBlank gap) (left : List Symbol) (depth : Nat)
    (fs : List (Field σ)) (index : Nat) (first : Bool) (gathered : σ) :
    Came (r.readFields depth fs index first gathered (symbols gap ++ .char ']' :: left))
      (fill take depth fs [] gathered) left := by
  have closed : skipSpace (symbols gap ++ .char ']' :: left) = .char ']' :: left :=
    skipSpace_before blank rfl left
  induction fs generalizing index with
  | nil =>
    refine came_of_eq ?_ (came_ok gathered left)
    simp [readFields, readEnd, closed]
  | cons f fs ih =>
    unfold readFields fill
    simp only [nextElement, closed]
    by_cases mayEnd : f.mayEnd
    · simpa [mayEnd] using ih (index + 1)
    · refine .inr ⟨by simp [mayEnd], ?_⟩
      simp [mayEnd, readEnd, closed, failAt]

theorem nextElement_behind {after before : List Char} (back : IsBlank after)
    (front : IsBlank before) {c : Char} (begins : Begins c) (next : List Symbol) :
    nextElement false (symbols after ++ .char ',' :: (symbols before ++ .char c :: next)) =
      .ok (some (.char c :: next)) := by
  obtain ⟨lexeme, noBracket, -⟩ := begins
  simp [nextElement, skipSpace_before back (c := ',') rfl, skipSpace_before front lexeme, noBracket]

theorem readEnd_of_ne {text rest : List Symbol} {s : Symbol} (goesOn : skipSpace text = s :: rest)
    (other : s ≠ .char ']') : ∃ e, readEnd text = .error e := by
  unfold readEnd
  simp only [goesOn, if_neg other]
  repeat' split
  all_goals exact ⟨_, rfl⟩

/-- A record is concluded from what was gathered. -/
theorem conclude_of_came {outcome : Outcome σ} {whole : Outcome α} {wanted : Option σ}
    {left : List Symbol} (came : Came outcome wanted left)
    (gathers : ∀ g rest, outcome = .ok (g, rest) → whole = r.conclude g rest)
    (fails : ∀ e, outcome = .error e → whole = .error e) :
    Came whole (wanted.bind fun g => (r.finish g).toOption) left := by
  rcases came with ⟨g, rfl, read⟩ | ⟨rfl, e, failed⟩
  · rw [gathers g left read, conclude, Option.bind_some]
    cases finished : r.finish g with
    | ok a => exact came_ok a left
    | error name => exact came_error _ left
  · rw [fails e failed]
    exact came_error e left

variable
  (reads : ∀ f ∈ r.fields, ∀ depth gathered,
    Reads Lays (f.read depth gathered) (take f.name depth gathered))

include reads

theorem readsMember (depth : Nat) : ReadsMember Lays (r.readMember depth) (r.step take depth) := by
  intro before after text tree left gathered name front back here stops
  unfold readMember step
  cases field : r.field? name with
  | none =>
    simp only [readColon_before front, passes_value back here stops]
    exact came_ok gathered left
  | some f =>
    -- A second value under one name is an error before it is read.
    have member : f ∈ r.fields := List.mem_of_find?_eq_some field
    have named : f.name = name := by
      simpa using List.find?_some field
    dsimp only
    by_cases isSet : f.isSet gathered
    · rw [if_pos isSet, if_pos isSet]
      exact came_error _ left
    · rw [if_neg isSet, if_neg isSet, readColon_before front, ← named]
      exact reads f member depth gathered back here stops

theorem readFields_of_listed {text gap : List Char} {items : List Tree}
    (listed : Listed Lays text items) (blank : IsBlank gap) (left : List Symbol) (depth : Nat)
    {fs : List (Field σ)} (known : ∀ f ∈ fs, f ∈ r.fields) (index : Nat) (first : Bool)
    (gathered : σ) {input : List Symbol}
    (next : nextElement first input =
      .ok (some (symbols text ++ (symbols gap ++ .char ']' :: left))))
    (more : ∃ e, readEnd input = .error e) :
    Came (r.readFields depth fs index first gathered input) (fill take depth fs items gathered)
      left := by
  -- Each item goes to the next field.  Where the fields run out first an end is looked for, and an
  -- item stands there.
  induction listed generalizing fs index first gathered input with
  | last here =>
    cases fs with
    | nil =>
      obtain ⟨e, more⟩ := more
      exact .inr ⟨rfl, e, by simp [readFields, more]⟩
    | cons f fs =>
      have closes : Stops (.char ']' :: left) := stops_cons (by decide) left
      have read := reads f (known f List.mem_cons_self) depth gathered
      rcases read.here here (stops_blank blank closes) with ⟨g, found, read⟩ | ⟨missing, e, failed⟩
      · have ends : Came (r.readFields depth fs (index + 1) false g _) (fill take depth fs [] g)
            left := readFields_end blank left depth fs (index + 1) false g
        simpa [readFields, next, read, fill, found] using ends
      · exact .inr ⟨by simp [fill, missing], e, by simp [readFields, next, failed]⟩
  | @cons text after before rest _ items here back front listed ih =>
    cases fs with
    | nil =>
      obtain ⟨e, more⟩ := more
      exact .inr ⟨rfl, e, by simp [readFields, more]⟩
    | cons f fs =>
      have others : ∀ f ∈ fs, f ∈ r.fields :=
        fun f member => known f (List.mem_cons_of_mem _ member)
      have read := reads f (known f List.mem_cons_self) depth gathered
      rw [symbols_listed] at next
      have follows : nextElement false (symbols after ++ .char ',' ::
          (symbols before ++ (symbols rest ++ (symbols gap ++ .char ']' :: left)))) =
          .ok (some (symbols rest ++ (symbols gap ++ .char ']' :: left))) := by
        obtain ⟨c, tail, rfl, begins⟩ := listed.starts starts_lays
        exact nextElement_behind back front begins _
      rcases read.here here (stops_blank back (stops_comma
        (symbols before ++ (symbols rest ++ (symbols gap ++ .char ']' :: left))))) with
        ⟨g, found, read⟩ | ⟨missing, e, failed⟩
      · have behind := ih others (index + 1) false g follows
          (readEnd_of_ne (skipSpace_before back rfl _) (by decide))
        simpa [readFields, next, read, fill, found] using behind
      · exact .inr ⟨by simp [fill, missing], e, by simp [readFields, next, failed]⟩

theorem readFields_of_inside {text : List Char} {items : List Tree}
    (inside : Inside Lays text items) (left : List Symbol) (depth : Nat) (gathered : σ) :
    Came (r.readFields depth r.fields 0 true gathered (symbols text ++ .char ']' :: left))
      (fill take depth r.fields items gathered) left := by
  cases inside with
  | nothing blank => exact readFields_end blank left depth r.fields 0 true gathered
  | @items before text after _ front listed back =>
    obtain ⟨c, rest, rfl, lexeme, noBracket, -⟩ := listed.starts starts_lays
    rw [symbols_inside]
    refine readFields_of_listed reads listed back left depth (fun f member => member) 0 true
      gathered ?_ ?_
    · simp [nextElement, skipSpace_before front lexeme, noBracket]
    · exact readEnd_of_ne (skipSpace_before front lexeme _) (by simpa using noBracket)

/-- A record is decoded from its list form, or from an object with its members in any order and
among other members. -/
theorem reads_record (depth : Nat) : Reads Lays (r.decoder depth) (r.value? take depth) := by
  intro gap text tree left blank lays stops
  obtain ⟨c, rest, same, lexeme, opener⟩ := opener_of_lays lays
  have refused (noBracket : c ≠ '[') (noBrace : c ≠ '\x7b')
      (missing : r.value? take depth tree = none) :
      Came (r.decoder depth (symbols gap ++ (symbols text ++ left))) (r.value? take depth tree)
        left := by
    have failed : r.decoder depth (symbols gap ++ (symbols text ++ left)) =
        refuse (.record r.name) (.char c :: (symbols rest ++ left)) := by
      simp [decoder, same, skipSpace_before blank lexeme, noBracket, noBrace]
    exact came_of_refused failed missing
  cases lays with
  | @array text items inside =>
    cases depth with
    | zero =>
      refine .inr ⟨rfl, ?_⟩
      simp [decoder, skipSpace_before blank (c := '[') rfl, failPast]
    | succ depth =>
      apply conclude_of_came (readFields_of_inside reads inside left depth r.start)
      · intro g rest read
        simp [decoder, skipSpace_before blank (c := '[') rfl, read]
      · intro e failed
        simp [decoder, skipSpace_before blank (c := '[') rfl, failed]
  | @object text members inside =>
    cases depth with
    | zero =>
      refine .inr ⟨rfl, ?_⟩
      simp [decoder, skipSpace_before blank (c := '\x7b') rfl, failPast]
    | succ depth =>
      apply conclude_of_came (readObject_of_inside (readsMember reads depth) inside r.start left)
      · intro g rest read
        simp [decoder, skipSpace_before blank (c := '\x7b') rfl, read]
      · intro e failed
        simp [decoder, skipSpace_before blank (c := '\x7b') rfl, failed]
  | null | true | false | number | string =>
    refine refused ?_ ?_ (by cases depth <;> rfl)
    · rintro rfl
      simp [Tree.openers] at opener
    · rintro rfl
      simp [Tree.openers] at opener

end Record

end CitedAnswers.Json
