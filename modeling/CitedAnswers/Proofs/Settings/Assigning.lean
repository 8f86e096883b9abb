import CitedAnswers.Settings.Layer
import Mathlib.Data.List.Induction

/-! # What assignments leave in a layer

Of the assignments to a setting as a whole, the last one stands if it is one of a scalar
(`lookup_assignAll_of_lastGiven?`).  An assignment to a part of a setting leaves a table or a list
in its place; this is the only way in which a value can come about that was not given.
-/

namespace CitedAnswers.Settings

/-! ## Keys -/

/-- A key that addresses no part is the text as it stands. -/
theorem Key.name_of_whole {text : String} (whole : (Key.ofText text).part = none) :
    (Key.ofText text).name = text := by
  unfold Key.ofText at whole ⊢
  dsimp only at whole ⊢
  split
  · next named =>
    rw [if_pos named] at whole
    split at whole
    · cases whole
    · cases whole
    · rfl
  · rfl

/-- Parts are addressed behind a full stop or a bracket. -/
theorem Key.ofText_of_not_mem {text : String} (noMember : '.' ∉ text.toList)
    (noItem : '[' ∉ text.toList) : Key.ofText text = ⟨text, none⟩ := by
  have within {c : Char} {rest : List Char}
      (parts : text.toList.dropWhile isNameChar = c :: rest) : c ∈ text.toList :=
    (List.dropWhile_suffix isNameChar).mem (parts ▸ List.mem_cons_self)
  unfold Key.ofText
  dsimp only
  split
  · split
    · next parts => exact absurd (within parts) noMember
    · next parts => exact absurd (within parts) noItem
    · rfl
  · rfl

/-! ## Assignments -/

/-- The value that was given last to a setting as a whole. -/
def lastGiven? (key : String) (assignments : List Assignment) : Option Given :=
  ((assignments.filter fun a => a.key = key).getLast?).map Assignment.given

theorem lastGiven?_concat (key : String) (assignments : List Assignment) (a : Assignment) :
    lastGiven? key (assignments ++ [a]) =
      if a.key = key then some a.given else lastGiven? key assignments := by
  by_cases same : a.key = key <;> simp [lastGiven?, List.filter_append, same]

theorem lastGiven?_cons (key : String) (a : Assignment) (assignments : List Assignment) :
    lastGiven? key (a :: assignments) =
      (lastGiven? key assignments).or (if a.key = key then some a.given else none) := by
  by_cases same : a.key = key <;>
    cases last : (assignments.filter fun a => a.key = key).getLast? <;>
      simp [lastGiven?, List.getLast?_cons, same, last]

theorem lastGiven?_eq_none_iff {key : String} {assignments : List Assignment} :
    lastGiven? key assignments = none ↔ ∀ a ∈ assignments, a.key ≠ key := by
  simp [lastGiven?]

/-- A value that only an assignment to a part of a setting leaves. -/
def IsParted (given : Given) : Prop :=
  given = Layer.merged .list ∨ given = Layer.merged (.table false)

namespace Layer

/-- An assignment changes the setting that it names, and no other. -/
theorem lookup_assign {layer : Layer} {a : Assignment} (key : String)
    (scalar : ∀ isEmpty, a.given.value ≠ .table isEmpty) :
    (layer.assign a).lookup key =
      if key = (Key.ofText a.key).name then
        some (match (Key.ofText a.key).part with
          | some .member => merged (.table false)
          | some .item => merged .list
          | none => a.given)
      else layer.lookup key := by
  unfold assign
  cases part : (Key.ofText a.key).part with
  | some p => cases p <;> simp only [part, Association.lookup_put]
  | none =>
    cases value : a.given.value with
    | table isEmpty => exact absurd value (scalar isEmpty)
    | nil | bool | int | real | text | list => simp only [part, Association.lookup_put]

theorem lookup_assign_of_ne {layer : Layer} {a : Assignment} {key : String}
    (other : key ≠ (Key.ofText a.key).name) : (layer.assign a).lookup key = layer.lookup key := by
  unfold assign
  dsimp only
  split
  · rw [Association.lookup_put, if_neg other]
  · rw [Association.lookup_put, if_neg other]
  · split
    · split
      · rfl
      · rw [Association.lookup_put, if_neg other]
    · rw [Association.lookup_put, if_neg other]

theorem assignAll_concat (layer : Layer) (assignments : List Assignment) (a : Assignment) :
    layer.assignAll (assignments ++ [a]) = (layer.assignAll assignments).assign a := by
  simp [assignAll]

/-- A scalar that was given last to a setting as a whole stands, unless parts of the setting were
assigned to since; whatever else was given does not matter. -/
theorem lookup_assignAll_of_lastGiven? (layer : Layer) {key : String}
    (whole : Key.ofText key = ⟨key, none⟩) {assignments : List Assignment} {given : Given}
    (scalar : ∀ isEmpty, given.value ≠ .table isEmpty)
    (last : lastGiven? key assignments = some given) :
    (∃ parted, (layer.assignAll assignments).lookup key = some parted ∧ IsParted parted) ∨
      (layer.assignAll assignments).lookup key = some given := by
  induction assignments using List.reverseRecOn with
  | nil => cases last
  | append_singleton assignments a ih =>
    rw [lastGiven?_concat] at last
    rw [assignAll_concat]
    by_cases named : key = (Key.ofText a.key).name
    · cases part : (Key.ofText a.key).part with
      | some p =>
        unfold assign
        dsimp only
        rw [part, ← named]
        cases p with
        | member => exact .inl ⟨_, (Association.lookup_put ..).trans (if_pos rfl), .inr rfl⟩
        | item => exact .inl ⟨_, (Association.lookup_put ..).trans (if_pos rfl), .inl rfl⟩
      | none =>
        have same : a.key = key := by rw [named, Key.name_of_whole part]
        rw [if_pos same] at last
        cases last
        rw [lookup_assign key scalar, if_pos named, part]
        exact .inr rfl
    · have other : ¬a.key = key := by
        rintro rfl
        rw [whole] at named
        exact named rfl
      rw [if_neg other] at last
      rw [lookup_assign_of_ne named]
      exact ih last

/-- Where settings are assigned to as a whole, the scalar that was given last stands, and else what
the layer held. -/
theorem lookup_assignAll_of_whole (layer : Layer) {key : String} {assignments : List Assignment}
    (whole : ∀ a ∈ assignments, (Key.ofText a.key).part = none)
    (scalar : ∀ a ∈ assignments, a.key = key → ∀ isEmpty, a.given.value ≠ .table isEmpty) :
    (layer.assignAll assignments).lookup key =
      (lastGiven? key assignments).or (layer.lookup key) := by
  induction assignments using List.reverseRecOn with
  | nil => rfl
  | append_singleton assignments a ih =>
    obtain ⟨whole, part⟩ := List.forall_mem_append.mp whole
    obtain ⟨scalar, last⟩ := List.forall_mem_append.mp scalar
    have part := part a List.mem_cons_self
    have last := last a List.mem_cons_self
    have name := Key.name_of_whole part
    rw [assignAll_concat, lastGiven?_concat]
    by_cases same : a.key = key
    · rw [lookup_assign key (last same), name, if_pos same.symm, if_pos same, part]
      rfl
    · have other : key ≠ (Key.ofText a.key).name := by
        rw [name]
        exact Ne.symm same
      rw [lookup_assign_of_ne other, if_neg same, ih whole scalar]

end Layer

end CitedAnswers.Settings
