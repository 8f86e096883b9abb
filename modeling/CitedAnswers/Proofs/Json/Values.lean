import CitedAnswers.Proofs.Json.Trees
import Mathlib.Data.List.Forall2

/-! # What trees denote

The value of a tree does not depend on how deep one is ready to go, as long as it is deep enough
(`value?_mono`).  So a tree denotes one value at most, however deep it is nested
(`Tree.Denotes.unique`), and so does a text that is a document (`IsDocument.unique`), although it
may be the layout of several trees for all that is said here.
-/

namespace CitedAnswers.Json

open CitedAnswers.Text (symbols)

theorem mapM_eq_some_iff {α β : Type} {f : α → Option β} {as : List α} {bs : List β} :
    as.mapM f = some bs ↔ List.Forall₂ (fun a b => f a = some b) as bs := by
  induction as generalizing bs with
  | nil =>
    rw [List.mapM_nil, List.forall₂_nil_left_iff]
    exact Option.some_inj.trans eq_comm
  | cons a as ih =>
    simp only [List.mapM_cons, Option.bind_eq_bind, Option.bind_eq_some_iff, Option.pure_def,
      Option.some.injEq, List.forall₂_cons_left_iff]
    constructor
    · rintro ⟨b, here, bs, rest, rfl⟩
      exact ⟨b, bs, here, ih.mp rest, rfl⟩
    · rintro ⟨b, bs, here, rest, rfl⟩
      exact ⟨b, here, bs, ih.mpr rest, rfl⟩

theorem gather_mono {σ α : Type} {step step' : σ → String → α → Option σ}
    (mono : ∀ {before name a after}, step before name a = some after →
      step' before name a = some after)
    {start gathered : σ} {members : List (List Piece × α)}
    (found : gather step start members = some gathered) :
    gather step' start members = some gathered := by
  induction members generalizing start with
  | nil => exact found
  | cons member members ih =>
    obtain ⟨pieces, a⟩ := member
    cases spelled : textOf? pieces with
    | none => simp [gather, spelled] at found
    | some name =>
      rw [gather_cons _ _ spelled] at found ⊢
      obtain ⟨between, first, rest⟩ := Option.bind_eq_some_iff.mp found
      exact Option.bind_eq_some_iff.mpr ⟨between, mono first, ih rest⟩

theorem value?_succ {depth : Nat} {tree : Tree} {v : Json} (found : tree.value? depth = some v) :
    tree.value? (depth + 1) = some v := by
  cases tree with
  | null | bool | number | string =>
    rw [Tree.value?] at found ⊢
    exact found
  | array items =>
    cases depth with
    | zero => cases found
    | succ depth =>
      rw [Tree.value?] at found ⊢
      obtain ⟨vs, each, rfl⟩ := Option.map_eq_some_iff.mp found
      have deeper := (mapM_eq_some_iff.mp each).imp fun _ _ => value?_succ
      rw [mapM_eq_some_iff.mpr deeper]
      rfl
  | object members =>
    cases depth with
    | zero => cases found
    | succ depth =>
      rw [Tree.value?] at found ⊢
      obtain ⟨entries, each, rfl⟩ := Option.map_eq_some_iff.mp found
      refine congrArg (Option.map Json.object) (gather_mono ?_ each)
      intro before name tree after inserted
      obtain ⟨w, value, rfl⟩ := Option.map_eq_some_iff.mp inserted
      rw [value?_succ value]
      rfl
termination_by depth

theorem value?_mono {depth deeper : Nat} (le : depth ≤ deeper) {tree : Tree} {v : Json}
    (found : tree.value? depth = some v) : tree.value? deeper = some v := by
  induction le with
  | refl => exact found
  | step _ ih => exact value?_succ ih

/-- The value of a tree, without a limit on how deep it is nested. -/
def Tree.Denotes (tree : Tree) (v : Json) : Prop :=
  ∃ depth, tree.value? depth = some v

theorem Tree.Denotes.unique {tree : Tree} {v w : Json} (left : tree.Denotes v)
    (right : tree.Denotes w) : v = w := by
  obtain ⟨depth, left⟩ := left
  obtain ⟨other, right⟩ := right
  have left := value?_mono (Nat.le_max_left depth other) left
  have right := value?_mono (Nat.le_max_right depth other) right
  exact Option.some.inj (left.symm.trans right)

/-- A text is one document, and this is its value, however deep it is nested. -/
def IsDocument (text : List Char) (v : Json) : Prop :=
  ∃ before here after tree, text = before ++ here ++ after ∧
    IsBlank before ∧ Lays here tree ∧ IsBlank after ∧ tree.Denotes v

theorem isDocument_of_lays {text : List Char} {tree : Tree} {v : Json} (lays : Lays text tree)
    (denotes : tree.Denotes v) : IsDocument text v :=
  ⟨[], text, [], tree, (List.append_nil text).symm, isBlank_nil, lays, isBlank_nil, denotes⟩

/-- A document is read to its value by a reader that goes deep enough. -/
theorem IsDocument.read {text : List Char} {v : Json} (document : IsDocument text v) :
    ∃ depth, ∀ deeper, depth ≤ deeper →
      readDocument (readValue deeper) (symbols text) = .ok v := by
  obtain ⟨before, here, after, tree, rfl, front, lays, back, depth, value⟩ := document
  exact ⟨depth, fun deeper le =>
    readDocument_of_reads (reads_value deeper) front lays back (value?_mono le value)⟩

theorem IsDocument.unique {text : List Char} {v w : Json} (left : IsDocument text v)
    (right : IsDocument text w) : v = w := by
  obtain ⟨depth, left⟩ := left.read
  obtain ⟨other, right⟩ := right.read
  have left := left _ (Nat.le_max_left depth other)
  have right := right _ (Nat.le_max_right depth other)
  exact Except.ok.inj (left.symm.trans right)

/-- What is read of a document is its value. -/
theorem IsDocument.eq_of_read {text : List Char} {v w : Json} (document : IsDocument text v)
    {depth : Nat} (ok : readDocument (readValue depth) (symbols text) = .ok w) : v = w := by
  obtain ⟨before, here, after, tree, rfl, front, lays, back, denotes⟩ := document
  have value := value_of_readDocument (reads_value depth) front lays back ok
  exact denotes.unique ⟨depth, value⟩

end CitedAnswers.Json
