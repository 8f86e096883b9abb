import CitedAnswers.Proofs.Json.LexemeSoundness
import CitedAnswers.Proofs.Json.Records

/-! # What is read was laid out

A reader that succeeds on a text has come over a layout, and gives the value of what is laid out
there (`Sound`): this holds of all values (`sound_value`) and of all shapes, so that nothing but
documents is decoded.
-/

namespace CitedAnswers.Json

open CitedAnswers.Text (Symbol symbols)

variable {α β σ : Type} {P : List Char → α → Prop}

/-! ## Passing over -/

/-- A text up to what is left of it is a layout behind any white space. -/
def Begun (P : List Char → α → Prop) (text rest : List Symbol) (a : α) : Prop :=
  ∃ gap here, mended text = gap ++ (here ++ mended rest) ∧ IsBlank gap ∧ P here a

theorem Begun.of_skipSpace {text rest : List Symbol} {here : List Char} {a : α}
    (same : mended (skipSpace text) = here ++ mended rest) (laid : P here a) :
    Begun P text rest a := by
  obtain ⟨gap, blank, begins⟩ := mended_eq_append_skipSpace text
  exact ⟨gap, here, by rw [begins, same], blank, laid⟩

def Recognizes (P : List Char → α → Prop) (skip : List Symbol → Except Failure (List Symbol)) :
    Prop :=
  ∀ ⦃text rest : List Symbol⦄, skip text = .ok rest → ∃ a, Begun P text rest a

/-- The white space up to a character and what stands behind it. -/
theorem mended_eq_of_skipSpace {text rest : List Symbol} {c : Char}
    (begins : skipSpace text = .char c :: rest) :
    ∃ gap, IsBlank gap ∧ mended text = gap ++ c :: mended rest := by
  obtain ⟨gap, blank, same⟩ := mended_eq_append_skipSpace text
  exact ⟨gap, blank, by rw [same, begins, mended_char]⟩

/-- Items up to a closing character. -/
def Enclosed (P : List Char → α → Prop) (closer : Char) (text rest : List Symbol)
    (as : List α) : Prop :=
  ∃ before here after, mended text = before ++ (here ++ (after ++ closer :: mended rest)) ∧
    IsBlank before ∧ IsBlank after ∧ Listed P here as

theorem Enclosed.last {closer : Char} {text left rest : List Symbol} {a : α}
    (begun : Begun P text left a) (ends : skipSpace left = .char closer :: rest) :
    Enclosed P closer text rest [a] := by
  obtain ⟨before, here, same, front, laid⟩ := begun
  obtain ⟨after, back, behind⟩ := mended_eq_of_skipSpace ends
  exact ⟨before, here, after, by rw [same, behind], front, back, .last laid⟩

theorem Enclosed.cons {closer : Char} {text left next rest : List Symbol} {a : α} {as : List α}
    (begun : Begun P text left a) (comma : skipSpace left = .char ',' :: next)
    (others : Enclosed P closer next rest as) : Enclosed P closer text rest (a :: as) := by
  obtain ⟨before, here, same, front, laid⟩ := begun
  obtain ⟨gap, blank, behind⟩ := mended_eq_of_skipSpace comma
  obtain ⟨between, more, after, others, front', back, listed⟩ := others
  refine ⟨before, _, after, ?_, front, back, .cons laid blank front' listed⟩
  rw [same, behind, others]
  simp

theorem Enclosed.inside {closer : Char} {text rest : List Symbol} {as : List α}
    (enclosed : Enclosed P closer text rest as) :
    ∃ inside, mended text = inside ++ closer :: mended rest ∧ Inside P inside as := by
  obtain ⟨before, here, after, same, front, back, listed⟩ := enclosed
  exact ⟨_, by simp [same], .items front listed back⟩

theorem Enclosed.of_skipSpace {closer : Char} {text rest : List Symbol} {as : List α}
    (enclosed : Enclosed P closer (skipSpace text) rest as) : Enclosed P closer text rest as := by
  obtain ⟨before, here, after, same, front, back, listed⟩ := enclosed
  obtain ⟨gap, blank, begins⟩ := mended_eq_append_skipSpace text
  exact ⟨gap ++ before, here, after, by simp [begins, same],
    List.forall_mem_append.mpr ⟨blank, front⟩, back, listed⟩

theorem enclosed_of_skipItems {item : List Symbol → Except Failure (List Symbol)}
    (recognizes : Recognizes P item) {fuel : Nat} {text rest : List Symbol}
    (ok : skipItems item fuel text = .ok rest) : ∃ as, Enclosed P ']' text rest as := by
  induction fuel generalizing text with
  | zero => cases ok
  | succ fuel ih =>
    obtain ⟨left, read, ends | ⟨next, comma, others⟩⟩ := skipItems_eq_ok_iff.mp ok
    · obtain ⟨a, begun⟩ := recognizes read
      exact ⟨[a], .last begun ends⟩
    · obtain ⟨a, begun⟩ := recognizes read
      obtain ⟨as, enclosed⟩ := ih others
      exact ⟨a :: as, .cons begun comma enclosed⟩

theorem begun_of_skipName {value : List Symbol → Except Failure (List Symbol)}
    (recognizes : Recognizes P value) {text named rest : List Symbol}
    (name : skipName (skipSpace text) = .ok named) (ok : value named = .ok rest) :
    ∃ entry, Begun (Named P) text rest entry := by
  obtain ⟨spelling, left, begins, skipped, colon⟩ := skipName_eq_ok_iff.mp name
  obtain ⟨spelt, pieces, same, spells⟩ := spells_of_skipString skipped
  obtain ⟨before, front, same'⟩ := mended_eq_of_skipSpace colon
  obtain ⟨a, after, here, same'', back, laid⟩ := recognizes ok
  refine ⟨(pieces, a), .of_skipSpace ?_ (.member spells front back laid)⟩
  simp [begins, same, same', same'', quoted]

theorem enclosed_of_skipMembers {value : List Symbol → Except Failure (List Symbol)}
    (recognizes : Recognizes P value) {fuel : Nat} {text rest : List Symbol}
    (ok : skipMembers value fuel text = .ok rest) :
    ∃ members, Enclosed (Named P) '\x7d' text rest members := by
  induction fuel generalizing text with
  | zero => cases ok
  | succ fuel ih =>
    obtain ⟨named, left, name, read, behind⟩ := skipMembers_eq_ok_iff.mp ok
    obtain ⟨entry, begun⟩ := begun_of_skipName recognizes name read
    rcases behind with ends | ⟨next, comma, others⟩
    · exact ⟨[entry], .last begun ends⟩
    · obtain ⟨members, enclosed⟩ := ih others
      exact ⟨entry :: members, .cons begun comma enclosed⟩

theorem lays_of_readLiteral {c : Char} {tail : List Char} {tree : Tree} {inner rest : List Symbol}
    (laid : Lays (c :: tail) tree) (ok : readLiteral tail inner = .ok rest) :
    ∃ here, mended (.char c :: inner) = here ++ mended rest ∧ Lays here tree := by
  rw [readLiteral_eq_ok_iff] at ok
  exact ⟨c :: tail, by simp [ok], laid⟩

theorem lays_of_inside {inner rest : List Symbol} {inside : List Char} {items : List Tree}
    (same : mended inner = inside ++ ']' :: mended rest) (laid : Inside Lays inside items) :
    ∃ here, mended (.char '[' :: inner) = here ++ mended rest ∧ Lays here (.array items) :=
  ⟨_, by simp [same], .array laid⟩

theorem lays_of_members {inner rest : List Symbol} {inside : List Char}
    {members : List (List Piece × Tree)} (same : mended inner = inside ++ '\x7d' :: mended rest)
    (laid : Inside (Named Lays) inside members) :
    ∃ here, mended (.char '\x7b' :: inner) = here ++ mended rest ∧ Lays here (.object members) :=
  ⟨_, by simp [same], .object laid⟩

theorem lays_of_passesOver {fuel : Nat} (recognizes : Recognizes Lays (skipNested fuel))
    {text rest : List Symbol} (passes : PassesOver fuel text rest) :
    ∃ tree here, mended text = here ++ mended rest ∧ Lays here tree := by
  cases passes with
  | null read => exact ⟨_, lays_of_readLiteral .null read⟩
  | true read => exact ⟨_, lays_of_readLiteral .true read⟩
  | false read => exact ⟨_, lays_of_readLiteral .false read⟩
  | minus read =>
    obtain ⟨n, read⟩ := skipNumber_eq_ok_iff.mp read
    obtain ⟨here, writes, -, rfl⟩ := writes_of_readNumeral read
    obtain ⟨run, leading, point, mark⟩ := writes
    have minus : WritesMagnitude _ ⟨true, _, _, _⟩ := .parts run leading point mark
    exact ⟨_, _, by simp, .number (.minus rfl minus)⟩
  | digits digit read =>
    obtain ⟨n, read⟩ := skipNumber_eq_ok_iff.mp read
    obtain ⟨here, writes, plain, same⟩ := writes_of_readNumeral read
    exact ⟨_, here, by simp [same], .number (.plain plain writes)⟩
  | string read =>
    obtain ⟨spelling, pieces, same, spells⟩ := spells_of_skipString read
    exact ⟨_, _, by simp [same, quoted], .string spells⟩
  | noItems ends =>
    obtain ⟨gap, blank, same⟩ := mended_eq_of_skipSpace ends
    exact ⟨_, lays_of_inside same (.nothing blank)⟩
  | items _ read =>
    obtain ⟨items, enclosed⟩ := enclosed_of_skipItems recognizes read
    obtain ⟨inside, same, laid⟩ := enclosed.of_skipSpace.inside
    exact ⟨_, lays_of_inside same laid⟩
  | noMembers ends =>
    obtain ⟨gap, blank, same⟩ := mended_eq_of_skipSpace ends
    exact ⟨_, lays_of_members same (.nothing blank)⟩
  | members _ read =>
    obtain ⟨members, enclosed⟩ := enclosed_of_skipMembers recognizes read
    obtain ⟨inside, same, laid⟩ := enclosed.of_skipSpace.inside
    exact ⟨_, lays_of_members same laid⟩

theorem recognizes_nested (fuel : Nat) : Recognizes Lays (skipNested fuel) := by
  induction fuel with
  | zero =>
    intro text rest ok
    cases ok
  | succ fuel ih =>
    intro text rest ok
    obtain ⟨tree, here, same, lays⟩ := lays_of_passesOver ih (skipNested_eq_ok_iff.mp ok)
    exact ⟨tree, .of_skipSpace same lays⟩

theorem recognizes_value : Recognizes Lays skipValue :=
  fun _ _ ok => recognizes_nested _ ok

/-! ## Lists and objects -/

/-- What a reader gives is the value of what is laid out where it read. -/
def Sound (P : List Char → α → Prop) (read : List Symbol → Outcome β) (value : α → Option β) :
    Prop :=
  ∀ ⦃text rest : List Symbol⦄ ⦃b : β⦄, read text = .ok (b, rest) →
    ∃ a, Begun P text rest a ∧ value a = some b

theorem enclosed_of_readItems {item : List Symbol → Outcome β} {value : α → Option β}
    (sound : Sound P item value) {fuel : Nat} {text rest : List Symbol} {bs : List β}
    (ok : readItems item fuel text = .ok (bs, rest)) :
    ∃ as, Enclosed P ']' text rest as ∧ as.mapM value = some bs := by
  induction fuel generalizing text bs with
  | zero => cases ok
  | succ fuel ih =>
    obtain ⟨b, left, read, ⟨ends, rfl⟩ | ⟨next, others, comma, -, -, more, rfl⟩⟩ :=
      readItems_eq_ok_iff.mp ok
    · obtain ⟨a, begun, found⟩ := sound read
      exact ⟨[a], .last begun ends, by simp [found]⟩
    · obtain ⟨a, begun, found⟩ := sound read
      obtain ⟨as, enclosed, values⟩ := ih more
      exact ⟨a :: as, .cons begun comma enclosed.of_skipSpace, by simp [found, values]⟩

theorem inside_of_readList {item : List Symbol → Outcome β} {value : α → Option β}
    (sound : Sound P item value) {text rest : List Symbol} {bs : List β}
    (ok : readList item text = .ok (bs, rest)) :
    ∃ inside as, mended text = inside ++ ']' :: mended rest ∧ Inside P inside as ∧
      as.mapM value = some bs := by
  rcases readList_eq_ok_iff.mp ok with ⟨ends, rfl⟩ | ⟨-, read⟩
  · obtain ⟨gap, blank, same⟩ := mended_eq_of_skipSpace ends
    exact ⟨gap, [], same, .nothing blank, rfl⟩
  · obtain ⟨as, enclosed, values⟩ := enclosed_of_readItems sound read
    obtain ⟨inside, same, laid⟩ := enclosed.of_skipSpace.inside
    exact ⟨inside, as, same, laid, values⟩

/-- What is gathered behind a name is what the step makes of what is laid out there. -/
def SoundMember (P : List Char → α → Prop) (member : σ → String → List Symbol → Outcome σ)
    (step : σ → String → α → Option σ) : Prop :=
  ∀ ⦃gathered more : σ⦄ ⦃name : String⦄ ⦃text rest : List Symbol⦄,
    member gathered name text = .ok (more, rest) →
      ∃ left a, skipSpace text = .char ':' :: left ∧ Begun P left rest a ∧
        step gathered name a = some more

theorem begun_of_member {member : σ → String → List Symbol → Outcome σ}
    {step : σ → String → α → Option σ} (sound : SoundMember P member step)
    {text behind rest : List Symbol} {gathered more : σ} {name : String}
    (named : readString text = .ok (name, behind))
    (read : member gathered name behind = .ok (more, rest)) :
    ∃ pieces a, Begun (Named P) (.char '"' :: text) rest (pieces, a) ∧
      textOf? pieces = some name ∧ step gathered name a = some more := by
  obtain ⟨spelling, pieces, rfl, spells, isName⟩ := spells_of_readString named
  obtain ⟨left, a, colon, ⟨after, here, same, back, laid⟩, stepped⟩ := sound read
  obtain ⟨before, front, same'⟩ := mended_eq_of_skipSpace colon
  refine ⟨pieces, a, ?_, isName, stepped⟩
  exact ⟨[], _, by simp [same, same', quoted], isBlank_nil, .member spells front back laid⟩

theorem enclosed_of_readMembers {member : σ → String → List Symbol → Outcome σ}
    {step : σ → String → α → Option σ} (sound : SoundMember P member step) {fuel : Nat}
    {inner rest : List Symbol} {gathered all : σ}
    (ok : readMembers member fuel gathered (.char '"' :: inner) = .ok (all, rest)) :
    ∃ members, Enclosed (Named P) '\x7d' (.char '"' :: inner) rest members ∧
      gather step gathered members = some all := by
  induction fuel generalizing inner gathered with
  | zero => cases ok
  | succ fuel ih =>
    obtain ⟨name, behind, more, left, named, read, behindMember⟩ := readMembers_eq_ok_iff.mp ok
    obtain ⟨pieces, a, begun, isName, stepped⟩ := begun_of_member sound named read
    rcases behindMember with ⟨ends, rfl⟩ | ⟨next, inner', comma, begins, others⟩
    · exact ⟨[(pieces, a)], .last begun ends, by rw [gather_cons _ _ isName, stepped]; rfl⟩
    · rw [begins] at others
      obtain ⟨members, enclosed, gathers⟩ := ih others
      rw [← begins] at enclosed
      refine ⟨(pieces, a) :: members, .cons begun comma enclosed.of_skipSpace, ?_⟩
      rw [gather_cons _ _ isName, stepped]
      exact gathers

theorem inside_of_readObject {member : σ → String → List Symbol → Outcome σ}
    {step : σ → String → α → Option σ} (sound : SoundMember P member step)
    {text rest : List Symbol} {start all : σ}
    (ok : readObject member start text = .ok (all, rest)) :
    ∃ inside members, mended text = inside ++ '\x7d' :: mended rest ∧
      Inside (Named P) inside members ∧ gather step start members = some all := by
  rcases readObject_eq_ok_iff.mp ok with ⟨ends, rfl⟩ | ⟨inner, begins, read⟩
  · obtain ⟨gap, blank, same⟩ := mended_eq_of_skipSpace ends
    exact ⟨gap, [], same, .nothing blank, rfl⟩
  · rw [begins] at read
    obtain ⟨members, enclosed, gathers⟩ := enclosed_of_readMembers sound read
    rw [← begins] at enclosed
    obtain ⟨inside, same, laid⟩ := enclosed.of_skipSpace.inside
    exact ⟨inside, members, same, laid, gathers⟩

/-! ## Values -/

theorem lays_of_readsNumber {text rest : List Symbol} {x : Numeric}
    (reads : ReadsNumber text x rest) :
    ∃ n here, mended text = here ++ mended rest ∧ Lays here (.number n) ∧ n.value = .ok x := by
  cases reads with
  | minus read =>
    obtain ⟨n, read, value⟩ := readNumber_eq_ok_iff.mp read
    obtain ⟨here, writes, minus, rfl⟩ := writes_of_readNumeral read
    exact ⟨n, _, by simp, .number (.minus minus writes), value⟩
  | digits digit read =>
    obtain ⟨n, read, value⟩ := readNumber_eq_ok_iff.mp read
    obtain ⟨here, writes, plain, same⟩ := writes_of_readNumeral read
    exact ⟨n, here, by simp [same], .number (.plain plain writes), value⟩

/-- A text up to what is left of it lays out a tree with this value. -/
def LaysHere (value : Tree → Option β) (text rest : List Symbol) (b : β) : Prop :=
  ∃ tree here, mended text = here ++ mended rest ∧ Lays here tree ∧ value tree = some b

theorem LaysHere.begun {value : Tree → Option β} {text rest : List Symbol} {b : β}
    (laysHere : LaysHere value (skipSpace text) rest b) :
    ∃ tree, Begun Lays text rest tree ∧ value tree = some b := by
  obtain ⟨tree, here, same, lays, found⟩ := laysHere
  exact ⟨tree, .of_skipSpace same lays, found⟩

theorem laysHere_of_readsAs {depth : Nat}
    (below : ∀ ⦃d⦄, depth = d + 1 → Sound Lays (readValue d) (Tree.value? d))
    {text rest : List Symbol} {v : Json} (reads : ReadsAs depth text v rest) :
    LaysHere (Tree.value? depth) text rest v := by
  have ofTree {tree : Tree} {v : Json} (found : tree.value? depth = some v)
      (laid : ∃ here, mended text = here ++ mended rest ∧ Lays here tree) :
      LaysHere (Tree.value? depth) text rest v := by
    obtain ⟨here, same, lays⟩ := laid
    exact ⟨tree, here, same, lays, found⟩
  cases reads with
  | null read => exact ofTree (by simp [Tree.value?]) (lays_of_readLiteral .null read)
  | true read => exact ofTree (by simp [Tree.value?]) (lays_of_readLiteral .true read)
  | false read => exact ofTree (by simp [Tree.value?]) (lays_of_readLiteral .false read)
  | number read =>
    obtain ⟨n, here, same, lays, value⟩ := lays_of_readsNumber read
    exact ⟨_, here, same, lays, by simp [Tree.value?, value, Except.toOption]⟩
  | string read =>
    obtain ⟨spelling, pieces, rfl, spells, isText⟩ := spells_of_readString read
    exact ⟨_, _, by simp [quoted], .string spells, by simp [Tree.value?, isText]⟩
  | array read =>
    obtain ⟨inside, items, same, laid, values⟩ := inside_of_readList (below rfl) read
    exact ofTree (by simp [Tree.value?, values]) (lays_of_inside same laid)
  | @object depth _ _ _ read =>
    have sound : SoundMember Lays (readEntry depth) fun before name tree =>
        (tree.value? depth).map (insertMember name · before) := by
      intro before all name text rest ok
      obtain ⟨left, v, colon, read, rfl⟩ := readEntry_eq_ok_iff.mp ok
      obtain ⟨tree, begun, value⟩ := below rfl read
      exact ⟨left, tree, readColon_eq_ok_iff.mp colon, begun, by simp [value]⟩
    obtain ⟨inside, members, same, laid, gathers⟩ := inside_of_readObject sound read
    exact ofTree (by simp [Tree.value?, gathers]) (lays_of_members same laid)

theorem sound_value (depth : Nat) : Sound Lays (readValue depth) (Tree.value? depth) := by
  induction depth with
  | zero =>
    intro text rest v ok
    refine (laysHere_of_readsAs (fun d same => ?_) (readValue_eq_ok_iff.mp ok)).begun
    cases same
  | succ depth ih =>
    intro text rest v ok
    refine (laysHere_of_readsAs (fun d same => ?_) (readValue_eq_ok_iff.mp ok)).begun
    cases same
    exact ih

/-! ## Shapes -/

theorem Sound.map {γ : Type} {read : List Symbol → Outcome β} {value : α → Option β}
    (sound : Sound P read value) (f : β → γ) :
    Sound P (fun text => mapResult f (read text)) (fun a => (value a).map f) := by
  intro text rest c ok
  obtain ⟨b, read, rfl⟩ := mapResult_eq_ok_iff.mp ok
  obtain ⟨a, begun, found⟩ := sound read
  exact ⟨a, begun, by simp [found]⟩

theorem sound_string (depth : Nat) : Sound Lays (Decoder.string depth) Tree.text? := by
  intro text rest s ok
  obtain ⟨inner, begins, read⟩ := Decoder.string_eq_ok_iff.mp ok
  obtain ⟨spelling, pieces, rfl, spells, isText⟩ := spells_of_readString read
  exact ⟨_, .of_skipSpace (by simp [begins, quoted]) (.string spells), isText⟩

theorem sound_single (depth : Nat) : Sound Lays (Decoder.single depth) Tree.single? := by
  intro text rest x ok
  obtain ⟨m, reads, rfl⟩ := Decoder.single_eq_ok_iff.mp ok
  obtain ⟨n, here, same, lays, value⟩ := lays_of_readsNumber reads
  exact ⟨_, .of_skipSpace same lays, by simp [Tree.single?, value, Except.toOption]⟩

def Tree.nullable? (value : Tree → Option α) : Tree → Option (Option α)
  | .null => some none
  | tree => (value tree).map some

theorem sound_nullable {d : Decoder α} {depth : Nat} {value : Tree → Option α}
    (noNull : value .null = none) (sound : Sound Lays (d depth) value) :
    Sound Lays (Decoder.nullable d depth) (Tree.nullable? value) := by
  intro text rest a? ok
  rcases Decoder.nullable_eq_ok_iff.mp ok with ⟨inner, begins, read, rfl⟩ | ⟨-, a, read, rfl⟩
  · obtain ⟨here, same, lays⟩ := lays_of_readLiteral .null read
    exact ⟨.null, .of_skipSpace (begins ▸ same) lays, rfl⟩
  · obtain ⟨tree, ⟨gap, here, same, blank, lays⟩, found⟩ := sound read
    obtain ⟨before, front, begins⟩ := mended_eq_append_skipSpace text
    refine ⟨tree, ⟨before ++ gap, here, by simp [begins, same],
      List.forall_mem_append.mpr ⟨front, blank⟩, lays⟩, ?_⟩
    cases tree with
    | null => cases noNull.symm.trans found
    | bool | number | string | array | object => simp [Tree.nullable?, found]

theorem sound_list {d : Decoder α} {value : Nat → Tree → Option α}
    (sound : ∀ depth, Sound Lays (d depth) (value depth)) (depth : Nat) :
    Sound Lays (Decoder.list d depth) (Tree.list? value depth) := by
  intro text rest as ok
  obtain ⟨below, inner, rfl, begins, read⟩ := Decoder.list_eq_ok_iff.mp ok
  obtain ⟨inside, items, same, laid, values⟩ := inside_of_readList (sound below) read
  obtain ⟨here, same, lays⟩ := lays_of_inside same laid
  exact ⟨_, .of_skipSpace (begins ▸ same) lays, values⟩

/-! ## Records -/

/-- The items of a list form, from where an element may begin; a further element stands behind a
comma. -/
inductive Elements (first : Bool) (text rest : List Symbol) : List Tree → Prop where
  | nothing (ends : skipSpace text = .char ']' :: rest) : Elements first text rest []
  | begun {items : List Tree} (isFirst : first = true)
      (enclosed : Enclosed Lays ']' text rest items) : Elements first text rest items
  | further {next : List Symbol} {items : List Tree} (isFurther : first = false)
      (comma : skipSpace text = .char ',' :: next) (enclosed : Enclosed Lays ']' next rest items) :
      Elements first text rest items

theorem Elements.cons {first : Bool} {text element left rest : List Symbol} {tree : Tree}
    {items : List Tree} (here : Record.nextElement first text = .ok (some element))
    (begun : Begun Lays element left tree) (behind : Elements false left rest items) :
    Elements first text rest (tree :: items) := by
  have enclosed : Enclosed Lays ']' element rest (tree :: items) := by
    cases behind with
    | nothing ends => exact .last begun ends
    | begun isFirst => cases isFirst
    | further _ comma enclosed => exact .cons begun comma enclosed
  obtain ⟨-, ⟨isFirst, rfl⟩ | ⟨isFurther, next, comma, rfl⟩⟩ :=
    Record.nextElement_eq_some_iff.mp here
  · exact .begun isFirst enclosed.of_skipSpace
  · exact .further isFurther comma enclosed.of_skipSpace

theorem Elements.inside {text rest : List Symbol} {items : List Tree}
    (elements : Elements true text rest items) :
    ∃ inside, mended text = inside ++ ']' :: mended rest ∧ Inside Lays inside items := by
  cases elements with
  | nothing ends =>
    obtain ⟨gap, blank, same⟩ := mended_eq_of_skipSpace ends
    exact ⟨gap, same, .nothing blank⟩
  | begun _ enclosed => exact enclosed.inside
  | further isFurther => cases isFurther

namespace Record

variable {r : Record σ α} {take : String → (depth : Nat) → σ → Tree → Option σ}

/-- Where a list form ends, the fields that are left may all be left out. -/
theorem fill_of_ends {depth index : Nat} {first : Bool} {fs : List (Field σ)} {gathered all : σ}
    {text left rest : List Symbol} (ends : skipSpace text = .char ']' :: left)
    (ok : r.readFields depth fs index first gathered text = .ok (all, rest)) :
    left = rest ∧ fill take depth fs [] gathered = some all := by
  induction fs generalizing index with
  | nil =>
    obtain ⟨closed, rfl⟩ := readFields_nil_eq_ok_iff.mp ok
    cases ends.symm.trans closed
    exact ⟨rfl, rfl⟩
  | cons f fs ih =>
    have none : nextElement first text = .ok none := nextElement_eq_none_iff.mpr ⟨left, ends⟩
    rcases readFields_cons_eq_ok_iff.mp ok with ⟨_, _, _, here, -, -⟩ | ⟨-, mayEnd, others⟩
    · cases none.symm.trans here
    · obtain ⟨same, filled⟩ := ih others
      exact ⟨same, by rw [fill, if_pos mayEnd, filled]⟩

variable (sound : ∀ f ∈ r.fields, ∀ depth g, Sound Lays (f.read depth g) (take f.name depth g))

include sound

theorem soundMember (depth : Nat) :
    SoundMember Lays (r.readMember depth) (r.step take depth) := by
  intro gathered more name text rest ok
  obtain ⟨left, colon, ⟨f, field, unset, read⟩ | ⟨field, skipped, rfl⟩⟩ :=
    readMember_eq_ok_iff.mp ok
  · have named : f.name = name := by simpa using List.find?_some field
    obtain ⟨tree, begun, found⟩ :=
      sound f (List.mem_of_find?_eq_some field) depth gathered read
    rw [named] at found
    exact ⟨left, tree, readColon_eq_ok_iff.mp colon, begun, by simp [step, field, unset, found]⟩
  · obtain ⟨tree, begun⟩ := recognizes_value skipped
    exact ⟨left, tree, readColon_eq_ok_iff.mp colon, begun, by simp [step, field]⟩

theorem elements_of_readFields {depth index : Nat} {first : Bool} {fs : List (Field σ)}
    (known : ∀ f ∈ fs, f ∈ r.fields) {gathered all : σ} {text rest : List Symbol}
    (ok : r.readFields depth fs index first gathered text = .ok (all, rest)) :
    ∃ items, Elements first text rest items ∧ fill take depth fs items gathered = some all := by
  induction fs generalizing index first gathered text with
  | nil =>
    obtain ⟨ends, rfl⟩ := readFields_nil_eq_ok_iff.mp ok
    exact ⟨[], .nothing ends, rfl⟩
  | cons f fs ih =>
    obtain ⟨here, others⟩ := List.forall_mem_cons.mp known
    rcases readFields_cons_eq_ok_iff.mp ok with
      ⟨element, more, left, next, read, behind⟩ | ⟨ended, -, -⟩
    · obtain ⟨tree, begun, found⟩ := sound f here depth gathered read
      obtain ⟨items, elements, filled⟩ := ih others behind
      exact ⟨tree :: items, .cons next begun elements, by rw [fill, found]; exact filled⟩
    · -- A list that ends here has no element for this field, nor for those behind it.
      obtain ⟨left, ends⟩ := nextElement_eq_none_iff.mp ended
      obtain ⟨rfl, filled⟩ := fill_of_ends ends ok
      exact ⟨[], .nothing ends, filled⟩

theorem sound_record (depth : Nat) : Sound Lays (r.decoder depth) (r.value? take depth) := by
  intro text rest a ok
  obtain ⟨below, gathered, inner, rfl, finished, ⟨begins, read⟩ | ⟨begins, read⟩⟩ :=
    decoder_eq_ok_iff.mp ok
  · obtain ⟨items, elements, filled⟩ :=
      elements_of_readFields sound (fun _ member => member) read
    obtain ⟨inside, same, laid⟩ := elements.inside
    obtain ⟨here, same, lays⟩ := lays_of_inside same laid
    have found : r.value? take (below + 1) (.array items) = some a := by
      simp [value?, filled, finished, Except.toOption]
    exact ⟨_, .of_skipSpace (begins ▸ same) lays, found⟩
  · obtain ⟨inside, members, same, laid, gathers⟩ :=
      inside_of_readObject (soundMember sound below) read
    obtain ⟨here, same, lays⟩ := lays_of_members same laid
    have found : r.value? take (below + 1) (.object members) = some a := by
      simp [value?, gathers, finished, Except.toOption]
    exact ⟨_, .of_skipSpace (begins ▸ same) lays, found⟩

end Record

/-! ## Documents -/

/-- A text in which octets may be ill-formed is one layout of a tree, and nothing else. -/
def IsLayout (text : List Symbol) (tree : Tree) : Prop :=
  ∃ before here after, mended text = before ++ here ++ after ∧ IsBlank before ∧ Lays here tree ∧
    IsBlank after

theorem isLayout_of_readDocument {read : List Symbol → Outcome β} {value : Tree → Option β}
    (sound : Sound Lays read value) {text : List Symbol} {b : β}
    (ok : readDocument read text = .ok b) : ∃ tree, IsLayout text tree ∧ value tree = some b := by
  obtain ⟨rest, read, ends⟩ := readDocument_eq_ok_iff.mp ok
  obtain ⟨tree, ⟨before, here, same, front, lays⟩, found⟩ := sound read
  obtain ⟨after, back, behind⟩ := mended_eq_append_skipSpace rest
  rw [ends, mended_nil, List.append_nil] at behind
  exact ⟨tree, ⟨before, here, after, by simp [same, behind], front, lays, back⟩, found⟩

end CitedAnswers.Json
