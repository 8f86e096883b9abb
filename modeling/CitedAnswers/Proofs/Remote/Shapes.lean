import CitedAnswers.Proofs.Chat.Presentations
import CitedAnswers.Proofs.Json.Values
import CitedAnswers.Remote.Documents

/-! # The shapes of replies

Trees of a shape, and what each of them has: a list of what its items have (`IsList`), and a record
of which one field matters (`HasField`), in either of its forms, with its field left out where it
may be.  The decoder of such a record comes to what the tree has (`reads_soleField`,
`soleField_value?_iff`), so all of the matches of a reply are decoded, in order
(`areMatches_iff_eq`).
-/

namespace CitedAnswers.Remote

open CitedAnswers.Json
open CitedAnswers.Chat (valuesOf NamesAreText Settled valuesOf_same valuesOf_other
  namesAreText_of_gather settled_of_gather eq_some_of_unset)
open CitedAnswers.Text (symbols)

variable {α : Type}

/-! ## Shapes -/

inductive IsList (P : Tree → α → Prop) : Tree → List α → Prop where
  | items {items : List Tree} {as : List α} (each : List.Forall₂ P items as) :
      IsList P (.array items) as

/-- A record has its field, or what stands for the field where there is none. -/
inductive HasField (field : String) (absent : Option α) (mayEnd : Bool) (P : Tree → α → Prop) :
    Tree → α → Prop where
  | member {members : List (List Piece × Tree)} {tree : Tree} {a : α}
      (names : NamesAreText members) (here : valuesOf field members = [tree]) (has : P tree a) :
      HasField field absent mayEnd P (.object members) a
  | noMember {members : List (List Piece × Tree)} {a : α} (names : NamesAreText members)
      (nowhere : valuesOf field members = []) (default : absent = some a) :
      HasField field absent mayEnd P (.object members) a
  | item {tree : Tree} {a : α} (has : P tree a) : HasField field absent mayEnd P (.array [tree]) a
  | noItem {a : α} (ends : mayEnd = true) (default : absent = some a) :
      HasField field absent mayEnd P (.array []) a

section Laws

variable {P Q : Tree → α → Prop} {field : String} {absent : Option α} {mayEnd : Bool}

theorem IsList.imp (imp : ∀ tree a, P tree a → Q tree a) {tree : Tree} {as : List α}
    (list : IsList P tree as) : IsList Q tree as := by
  cases list with
  | items each => exact .items (each.imp imp)

theorem IsList.unique (unique : Relator.RightUnique P) : Relator.RightUnique (IsList P) := by
  rintro _ _ _ ⟨left⟩ ⟨right⟩
  exact List.right_unique_forall₂' unique left right

theorem HasField.imp (imp : ∀ tree a, P tree a → Q tree a) {tree : Tree} {a : α}
    (has : HasField field absent mayEnd P tree a) : HasField field absent mayEnd Q tree a := by
  cases has with
  | member names here has => exact .member names here (imp _ _ has)
  | noMember names nowhere default => exact .noMember names nowhere default
  | item has => exact .item (imp _ _ has)
  | noItem ends default => exact .noItem ends default

theorem HasField.unique (unique : Relator.RightUnique P) :
    Relator.RightUnique (HasField field absent mayEnd P) := by
  intro tree a b left right
  cases left with
  | member _ here left =>
    cases right with
    | member _ there right =>
      cases here.symm.trans there
      exact unique left right
    | noMember _ nowhere _ => cases here.symm.trans nowhere
  | noMember _ nowhere default =>
    cases right with
    | member _ there _ => cases nowhere.symm.trans there
    | noMember _ _ same => exact Option.some.inj (default.symm.trans same)
  | item left =>
    cases right with
    | item right => exact unique left right
  | noItem _ default =>
    cases right with
    | noItem _ same => exact Option.some.inj (default.symm.trans same)

end Laws

/-! ## What is decoded of them -/

theorem list?_eq_some_iff {value : Nat → Tree → Option α} {depth : Nat} {tree : Tree}
    {as : List α} :
    tree.list? value (depth + 1) = some as ↔ IsList (value depth · = some ·) tree as := by
  constructor
  · intro found
    cases tree with
    | array items => exact .items (mapM_eq_some_iff.mp found)
    | null | bool | number | string | object => cases found
  · rintro ⟨each⟩
    exact mapM_eq_some_iff.mpr each

section SoleField

variable {name field : String} {d : Decoder α} {absent : Option α} {mayEnd : Bool}
  {value : Nat → Tree → Option α}

/-- What the only field takes from a tree. -/
def takeSole (value : Nat → Tree → Option α) (_name : String) (depth : Nat) (_before : Option α)
    (tree : Tree) : Option (Option α) :=
  (value depth tree).map some

theorem reads_soleField (reads : ∀ depth, Reads Lays (d depth) (value depth)) (depth : Nat) :
    Reads Lays ((soleField name field d absent mayEnd).decoder depth)
      ((soleField name field d absent mayEnd).value? (takeSole value) depth) := by
  apply Record.reads_record
  intro f member depth before
  cases List.mem_singleton.mp member
  exact (reads depth).map some

theorem soleField_step (depth : Nat) (before : Option α) (n : String) (tree : Tree) :
    (soleField name field d absent mayEnd).step (takeSole value) depth before n tree =
      if n = field then
        if before.isSome then none else (value depth tree).map some
      else some before := by
  unfold Record.step Record.field? soleField
  by_cases same : field = n
  · simp [same, takeSole]
  · simp [same, Ne.symm same]

theorem gather_soleField_iff {depth : Nat} {before after : Option α}
    {members : List (List Piece × Tree)} :
    gather ((soleField name field d absent mayEnd).step (takeSole value) depth) before members =
        some after ↔
      NamesAreText members ∧ Settled (value depth) before (valuesOf field members) after := by
  constructor
  · intro found
    refine ⟨namesAreText_of_gather found, settled_of_gather id ?_ ?_ found⟩
    · intro before tree after stepped
      rw [soleField_step, if_pos rfl] at stepped
      obtain ⟨unset, a, here, rfl⟩ := eq_some_of_unset stepped
      exact ⟨a, unset, here, rfl⟩
    · intro before n tree after other stepped
      rw [soleField_step, if_neg other] at stepped
      exact (Option.some.inj stepped).symm
  · rintro ⟨names, settled⟩
    -- A member of the name settles what is gathered; any other leaves it alone.
    induction members generalizing before with
    | nil => exact congrArg some settled.last.symm
    | cons member members ih =>
      obtain ⟨pieces, tree⟩ := member
      obtain ⟨⟨n, spelled⟩, others⟩ := List.forall_mem_cons.mp names
      rw [gather_cons _ _ spelled, soleField_step]
      by_cases same : n = field
      · subst same
        rw [valuesOf_same spelled] at settled
        obtain ⟨a, unset, here, rest⟩ := settled.first
        rw [if_pos rfl, unset, here]
        exact ih others rest
      · rw [valuesOf_other spelled same] at settled
        rw [if_neg same]
        exact ih others settled

theorem fill_soleField_iff {depth : Nat} {items : List Tree} {after : Option α} :
    Record.fill (takeSole value) depth (soleField name field d absent mayEnd).fields items none =
        some after ↔
      (∃ tree a, items = [tree] ∧ value depth tree = some a ∧ after = some a) ∨
        items = [] ∧ mayEnd = true ∧ after = none := by
  rcases items with _ | ⟨tree, _ | ⟨next, rest⟩⟩
  · cases mayEnd <;> simp [soleField, Record.fill, eq_comm]
  · simp [soleField, Record.fill, takeSole, eq_comm]
  · simp [soleField, Record.fill]

theorem finish_soleField_iff {gathered : Option α} {a : α} :
    ((soleField name field d absent mayEnd).finish gathered).toOption = some a ↔
      gathered = some a ∨ gathered = none ∧ absent = some a := by
  cases gathered with
  | some b => simp [soleField, Except.toOption]
  | none => cases absent <;> simp [soleField, Except.toOption]

/-- A record is decoded to what the tree has. -/
theorem soleField_value?_iff {depth : Nat} {tree : Tree} {a : α} :
    (soleField name field d absent mayEnd).value? (takeSole value) (depth + 1) tree = some a ↔
      HasField field absent mayEnd (value depth · = some ·) tree a := by
  constructor
  · intro found
    cases tree with
    | null | bool | number | string => cases found
    | array items =>
      obtain ⟨gathered, filled, finished⟩ := Option.bind_eq_some_iff.mp found
      rcases fill_soleField_iff.mp filled with ⟨tree, b, rfl, has, rfl⟩ | ⟨rfl, ends, rfl⟩
      · rcases finish_soleField_iff.mp finished with same | ⟨none, -⟩
        · cases same
          exact .item has
        · cases none
      · rcases finish_soleField_iff.mp finished with same | ⟨-, default⟩
        · cases same
        · exact .noItem ends default
    | object members =>
      obtain ⟨gathered, all, finished⟩ := Option.bind_eq_some_iff.mp found
      obtain ⟨names, ⟨nowhere, same⟩ | ⟨-, tree, b, here, has, rfl⟩⟩ := gather_soleField_iff.mp all
      · rcases finish_soleField_iff.mp finished with found | ⟨-, default⟩
        · cases same.symm.trans found
        · exact .noMember names nowhere default
      · rcases finish_soleField_iff.mp finished with same | ⟨none, -⟩
        · cases same
          exact .member names here has
        · cases none
  · intro has
    cases has with
    | member names here has =>
      have settled : Settled (value depth) none _ (some a) := .inr ⟨rfl, _, a, here, has, rfl⟩
      exact Option.bind_eq_some_iff.mpr
        ⟨some a, gather_soleField_iff.mpr ⟨names, settled⟩, finish_soleField_iff.mpr (.inl rfl)⟩
    | noMember names nowhere default =>
      have settled : Settled (value depth) none _ none := .inl ⟨nowhere, rfl⟩
      exact Option.bind_eq_some_iff.mpr ⟨none, gather_soleField_iff.mpr ⟨names, settled⟩,
        finish_soleField_iff.mpr (.inr ⟨rfl, default⟩)⟩
    | item has =>
      exact Option.bind_eq_some_iff.mpr
        ⟨some a, fill_soleField_iff.mpr (.inl ⟨_, a, rfl, has, rfl⟩),
          finish_soleField_iff.mpr (.inl rfl)⟩
    | noItem ends default =>
      exact Option.bind_eq_some_iff.mpr
        ⟨none, fill_soleField_iff.mpr (.inr ⟨rfl, ends, rfl⟩),
          finish_soleField_iff.mpr (.inr ⟨rfl, default⟩)⟩

end SoleField

/-! ## Matches -/

/-- A tree of a match has these metadata. -/
def IsMatch : Tree → Json → Prop :=
  HasField "metadata" (some .null) true Tree.Denotes

/-- A tree of a reply has the matches with these metadata, in order. -/
def AreMatches : Tree → List Json → Prop :=
  HasField "matches" (some []) true (IsList IsMatch)

theorem AreMatches.unique : Relator.RightUnique AreMatches :=
  HasField.unique (IsList.unique (HasField.unique fun _ _ _ => Tree.Denotes.unique))

/-- The matches that a body lays out are those that are decoded. -/
theorem areMatches_iff_eq {before text after : List Char} {tree : Tree} {all others : List Json}
    (front : IsBlank before) (lays : Lays text tree) (back : IsBlank after)
    (decoded : matchesDecoder.run (symbols (before ++ text ++ after)) = .ok all) :
    AreMatches tree others ↔ others = all := by
  have reads : Reads Lays (matchesDecoder depthLimit) _ :=
    reads_soleField (reads_list (reads_soleField reads_value)) depthLimit
  have found := value_of_readDocument reads front lays back decoded
  have has : AreMatches tree all := by
    refine (soleField_value?_iff.mp found).imp fun _ _ list => ?_
    refine (list?_eq_some_iff.mp list).imp fun _ _ one => ?_
    exact (soleField_value?_iff.mp one).imp fun _ _ value => ⟨_, value⟩
  constructor
  · intro other
    exact AreMatches.unique other has
  · rintro rfl
    exact has

end CitedAnswers.Remote
