import CitedAnswers.Json.Printer
import CitedAnswers.Proofs.Json.Integers
import CitedAnswers.Proofs.Json.Values

/-! # Documents that are written

A value whose numbers are whole is written as the layout of a tree (`lays_of_readBack`), whatever
characters its strings have.  So what is read of a document that was written is the value of that
tree (`parse_render`).
-/

namespace CitedAnswers.Json

open CitedAnswers.Number
open CitedAnswers.Text (Symbol symbols)

/-! ## Strings -/

def piecesOf (cs : List Char) : List Piece :=
  cs.map .char

@[simp] theorem charsOf?_piecesOf (cs : List Char) : charsOf? (piecesOf cs) = some cs := by
  unfold piecesOf
  induction cs with
  | nil => rfl
  | cons c cs ih => simp [charsOf?, ih]

@[simp] theorem textOf?_piecesOf (s : String) : textOf? (piecesOf s.toList) = some s := by
  simp [textOf?]

theorem isHex_hexChar {d : Nat} (small : d < 16) : IsHex (hexChar d) d := by
  have table : ∀ d < 16, hexChar d = Nat.digitChar d := by decide
  exact ⟨small, .inl (table d small)⟩

theorem isWord_of_control {n : Nat} (control : n < 0x20) :
    IsWord ['0', '0', hexChar (n / 16), hexChar (n % 16)] n := by
  have zero : IsHex '0' 0 := ⟨by decide, .inl rfl⟩
  have high : IsHex (hexChar (n / 16)) (n / 16) := isHex_hexChar (by omega)
  have low : IsHex (hexChar (n % 16)) (n % 16) := isHex_hexChar (by omega)
  have word := IsWord.digits zero zero high low
  have value : ((0 * 16 + 0) * 16 + n / 16) * 16 + n % 16 = n := by omega
  rwa [value] at word

theorem spells_escapeChar (c : Char) {text : List Char} {pieces : List Piece}
    (rest : Spells text pieces) : Spells (escapeChar c ++ text) (.char c :: pieces) := by
  unfold escapeChar
  split_ifs with quote backslash back feed line carriage tab control
  · cases quote
    exact .short (by decide) rest
  · cases backslash
    exact .short (by decide) rest
  · cases back
    exact .short (by decide) rest
  · cases feed
    exact .short (by decide) rest
  · cases line
    exact .short (by decide) rest
  · cases carriage
    exact .short (by decide) rest
  · cases tab
    exact .short (by decide) rest
  · have word := isWord_of_control control
    have same : Piece.ofUnit c.toNat = .char c := by
      rw [Piece.ofUnit, if_neg (by omega), Char.ofNat_toNat]
    exact same ▸ .word word rest
  · exact .plain ⟨quote, backslash, by omega⟩ rest

theorem spells_of_chars (cs : List Char) : Spells (cs.flatMap escapeChar) (piecesOf cs) := by
  induction cs with
  | nil => exact .nil
  | cons c cs ih => exact spells_escapeChar c ih

theorem renderString_eq (s : String) : renderString s = quoted (s.toList.flatMap escapeChar) := rfl

/-! ## Whole numbers -/

/-- Integers of the 64-bit ranges. -/
def IsInteger (n : Int) : Prop :=
  -(leastMagnitude : Int) ≤ n ∧ n ≤ Binary.greatestWord

instance (n : Int) : Decidable (IsInteger n) :=
  inferInstanceAs (Decidable (_ ∧ _))

theorem value_integer {n : Int} (inRange : IsInteger n) :
    (⟨decide (n < 0), digitsOf n.natAbs, none, none⟩ : Numeral).value = .ok (.whole n) := by
  obtain ⟨least, greatest⟩ := inRange
  have ranges : leastMagnitude ≤ Binary.greatestWord := by decide
  have word : n.natAbs ≤ Binary.greatestWord := by omega
  by_cases negative : n < 0
  · have inside : ¬(n.natAbs = 0 ∨ leastMagnitude < n.natAbs) := by omega
    have sign : -(n.natAbs : Int) = n := by omega
    rw [decide_eq_true negative, value_negative word, if_neg inside, sign]
  · have sign : (n.natAbs : Int) = n := by omega
    rw [decide_eq_false negative, value_natural word, sign]

/-! ## Layouts -/

section Joining

variable {α β : Type} {P : List Char → α → Prop} {write : β → List Char}
  {join : List β → List Char} (single : ∀ b, join [b] = write b)
  (more : ∀ b c rest, join (b :: c :: rest) = write b ++ ',' :: join (c :: rest))

include single more

/-- Parts that are joined by commas are listed. -/
theorem listed_of_forall₂ {b : β} {bs : List β} {as : List α}
    (each : List.Forall₂ (fun b a => P (write b) a) (b :: bs) as) :
    Listed P (join (b :: bs)) as := by
  induction bs generalizing b as with
  | nil =>
    obtain ⟨a, as, here, none, rfl⟩ := List.forall₂_cons_left_iff.mp each
    cases none
    rw [single]
    exact .last here
  | cons c bs ih =>
    obtain ⟨a, as, here, rest, rfl⟩ := List.forall₂_cons_left_iff.mp each
    rw [more]
    simpa using Listed.cons here isBlank_nil isBlank_nil (ih rest)

theorem inside_of_forall₂ (none : join [] = []) {bs : List β} {as : List α}
    (each : List.Forall₂ (fun b a => P (write b) a) bs as) : Inside P (join bs) as := by
  cases each with
  | nil =>
    rw [none]
    exact .nothing isBlank_nil
  | cons here rest => exact .of_listed (listed_of_forall₂ single more (.cons here rest))

end Joining

theorem lays_string (s : String) :
    Lays (renderChars (.string s)) (.string (piecesOf s.toList)) := by
  rw [renderChars]
  exact .string (spells_of_chars s.toList)

theorem lays_array {items : List Json} {trees : List Tree}
    (each : List.Forall₂ (fun v tree => Lays (renderChars v) tree) items trees) :
    Lays (renderChars (.array items)) (.array trees) := by
  rw [renderChars]
  refine .array (inside_of_forall₂ (fun v => ?_) (fun v w rest => ?_) ?_ each)
  · rw [renderItems]
  · rw [renderItems]
  · rw [renderItems]

/-- A member is written as its name, a colon and its value. -/
theorem lays_object {members : List (String × Json)} {named : List (List Piece × Tree)}
    (each : List.Forall₂ (fun member named =>
      Named Lays (renderString member.1 ++ ':' :: renderChars member.2) named) members named) :
    Lays (renderChars (.object members)) (.object named) := by
  rw [renderChars]
  refine .object (inside_of_forall₂ (fun member => ?_) (fun member next rest => ?_) ?_ each)
  · rw [renderMembers]
  · rw [renderMembers]
  · rw [renderMembers]

theorem named_of_lays (name : String) {text : List Char} {tree : Tree} (lays : Lays text tree) :
    Named Lays (renderString name ++ ':' :: text) (piecesOf name.toList, tree) := by
  have member := Named.member (spells_of_chars name.toList) isBlank_nil isBlank_nil lays
  simpa [renderString_eq] using member

/-! ## Values -/

/-- What is read of a value that was written, if its numbers are integers and it opens at most
`depth` lists and objects at once: the members of its objects are put in order. -/
def readBack : (depth : Nat) → Json → Option Json
  | _, .null => some .null
  | _, .bool b => some (.bool b)
  | _, .number (.whole n) => if IsInteger n then some (.number (.whole n)) else none
  | _, .number (.double _) | _, .number (.single _) => none
  | _, .string s => some (.string s)
  | 0, .array _ | 0, .object _ => none
  | depth + 1, .array items => (items.mapM (readBack depth)).map .array
  | depth + 1, .object members =>
    (members.foldlM (fun before (name, v) => (readBack depth v).map (insertMember name · before))
      []).map .object

section Trees

variable {depth : Nat}
  (lays : ∀ {v w}, readBack depth v = some w →
    ∃ tree, Lays (renderChars v) tree ∧ tree.value? depth = some w)

include lays

theorem trees_of_items {items ws : List Json} (back : items.mapM (readBack depth) = some ws) :
    ∃ trees, List.Forall₂ (fun v tree => Lays (renderChars v) tree) items trees ∧
      trees.mapM (Tree.value? depth) = some ws := by
  have each := mapM_eq_some_iff.mp back
  clear back
  induction each with
  | nil => exact ⟨[], .nil, rfl⟩
  | cons first _ ih =>
    obtain ⟨tree, laid, value⟩ := lays first
    obtain ⟨trees, others, values⟩ := ih
    exact ⟨tree :: trees, .cons laid others, by simp [value, values]⟩

theorem trees_of_members {members start ws : List (String × Json)}
    (back : members.foldlM (fun before (name, v) =>
      (readBack depth v).map (insertMember name · before)) start = some ws) :
    ∃ named, List.Forall₂ (fun member named =>
        Named Lays (renderString member.1 ++ ':' :: renderChars member.2) named) members named ∧
      gather (fun before name tree => (Tree.value? depth tree).map (insertMember name · before))
        start named = some ws := by
  induction members generalizing start with
  | nil => exact ⟨[], .nil, back⟩
  | cons member members ih =>
    obtain ⟨name, v⟩ := member
    rw [List.foldlM_cons, Option.bind_eq_bind, Option.bind_eq_some_iff] at back
    obtain ⟨_, first, behind⟩ := back
    obtain ⟨w, read, rfl⟩ := Option.map_eq_some_iff.mp first
    obtain ⟨tree, laid, value⟩ := lays read
    obtain ⟨named, others, values⟩ := ih behind
    refine ⟨_, .cons (named_of_lays name laid) others, ?_⟩
    simpa [gather, value] using values

end Trees

theorem lays_of_readBack {depth : Nat} {v w : Json} (back : readBack depth v = some w) :
    ∃ tree, Lays (renderChars v) tree ∧ tree.value? depth = some w := by
  match v with
  | .null =>
    rw [readBack] at back
    exact ⟨.null, .null, by rw [Tree.value?, back]⟩
  | .bool true =>
    rw [readBack] at back
    exact ⟨.bool true, .true, by rw [Tree.value?, back]⟩
  | .bool false =>
    rw [readBack] at back
    exact ⟨.bool false, .false, by rw [Tree.value?, back]⟩
  | .number (.whole n) =>
    rw [readBack] at back
    obtain ⟨inRange, same⟩ := Option.ite_none_right_eq_some.mp back
    cases same
    refine ⟨.number _, .number (writes_integer n), ?_⟩
    rw [Tree.value?, value_integer inRange]
    rfl
  | .number (.double _) | .number (.single _) =>
    rw [readBack] at back
    cases back
  | .string s =>
    rw [readBack] at back
    refine ⟨_, .string (spells_of_chars s.toList), ?_⟩
    simp [Tree.value?, back]
  | .array items =>
    cases depth with
    | zero => cases back
    | succ depth =>
      rw [readBack] at back
      obtain ⟨ws, each, rfl⟩ := Option.map_eq_some_iff.mp back
      obtain ⟨trees, laid, values⟩ := trees_of_items lays_of_readBack each
      exact ⟨.array trees, lays_array laid, by rw [Tree.value?, values]; rfl⟩
  | .object members =>
    cases depth with
    | zero => cases back
    | succ depth =>
      rw [readBack] at back
      obtain ⟨ws, each, rfl⟩ := Option.map_eq_some_iff.mp back
      obtain ⟨named, laid, values⟩ := trees_of_members lays_of_readBack each
      exact ⟨.object named, lays_object laid, by rw [Tree.value?, values]; rfl⟩
termination_by depth

/-- A document that was written is read to the value of what it lays out. -/
theorem readDocument_render {α : Type} {read : List Symbol → Outcome α} {value : Tree → Option α}
    {v : Json} {tree : Tree} {a : α} (reads : Reads Lays read value)
    (lays : Lays (renderChars v) tree) (found : value tree = some a) :
    readDocument read (symbols v.render.toList) = .ok a := by
  have read := readDocument_of_reads reads isBlank_nil lays isBlank_nil found
  simpa [render] using read

/-- What is read of a document that was written. -/
theorem parse_render {v w : Json} (back : readBack depthLimit v = some w) :
    parse v.render = .ok w := by
  obtain ⟨tree, lays, value⟩ := lays_of_readBack back
  exact readDocument_render (reads_value depthLimit) lays value

end CitedAnswers.Json
