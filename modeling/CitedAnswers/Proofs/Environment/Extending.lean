import CitedAnswers.Environment.File
import CitedAnswers.Data.Association
import Mathlib.Data.List.Basic

/-! # What a file adds to an environment

Whether a line is malformed, and which name it assigns to, does not depend on the values of
variables (`readLine_alike`), so both can be read off a file as it stands.  A file is applied up to
its first malformed line: behind one, nothing is (`extendBy_append_of_malformed`), and the first
assignment to a new name counts if and only if no malformed line stands before it
(`lookup_extendBy_eq_some_iff`).
-/

namespace CitedAnswers.Environment

/-! ## Lines by themselves -/

/-- The name that a line assigns to. -/
def Line.name? : Line → Option String
  | assignment name _ => some name
  | blank | malformed => none

/-- The name that a line of a file assigns to, whatever variables are set. -/
def assignedName? : Option (List Char) → Option String
  | some line => (readLine (fun _ => "") line).name?
  | none => none

/-- Whether a line of a file is malformed, whatever variables are set.  One that the text ends
within is. -/
def isMalformed : Option (List Char) → Bool
  | some line => readLine (fun _ => "") line = .malformed
  | none => true

theorem isSome_readValue (valueOf valueOf' : String → String) (here : InValue) (cs : List Char) :
    (readValue valueOf here cs).isSome = (readValue valueOf' here cs).isSome := by
  -- Values of variables are put in front of what is read behind them, and decide nothing else.
  fun_induction readValue valueOf here cs <;> grind [readValue]

theorem readLine_alike (valueOf valueOf' : String → String) (line : List Char) :
    (readLine valueOf line).name? = (readLine valueOf' line).name? ∧
      (readLine valueOf line = .malformed ↔ readLine valueOf' line = .malformed) := by
  unfold readLine
  dsimp only
  split
  · exact ⟨rfl, Iff.rfl⟩
  · split
    · exact ⟨rfl, Iff.rfl⟩
    · next name rest _ =>
      split
      · exact ⟨rfl, Iff.rfl⟩
      · have alike := isSome_readValue valueOf valueOf' (.plain false) rest
        cases read : readValue valueOf (.plain false) rest <;>
          cases read' : readValue valueOf' (.plain false) rest <;>
            simp_all [Line.name?]

theorem name?_readLine (valueOf : String → String) (line : List Char) :
    (readLine valueOf line).name? = assignedName? (some line) :=
  (readLine_alike valueOf (fun _ => "") line).1

theorem readLine_eq_malformed_iff (valueOf : String → String) (line : List Char) :
    readLine valueOf line = .malformed ↔ isMalformed (some line) = true := by
  rw [isMalformed, decide_eq_true_iff]
  exact (readLine_alike valueOf (fun _ => "") line).2

/-! ## Variables that are set -/

namespace Variables

variable {vars : Variables} {name value : String} {lines before after : List (Option (List Char))}

theorem lookup_setNew (vars : Variables) (name value other : String) :
    (vars.setNew name value).lookup other =
      (vars.lookup other).or (if other = name then some value else none) := by
  unfold setNew
  split
  · next set =>
    by_cases same : other = name
    · obtain ⟨held, there⟩ := Option.isSome_iff_exists.mp set
      rw [same, there, Option.some_or]
    · rw [if_neg same, Option.or_none]
  · rw [List.lookup_append, Association.lookup_cons]
    rfl

/-- The variables behind a line of a file. -/
def applyLine (vars : Variables) : Option (List Char) → Variables
  | some line =>
    match readLine vars.valueOf line with
    | .assignment name value => vars.setNew name value
    | .blank | .malformed => vars
  | none => vars

theorem applyLine_cases (vars : Variables) (line : Option (List Char)) :
    vars.applyLine line = vars ∨
      ∃ name value, assignedName? line = some name ∧
        vars.applyLine line = vars.setNew name value := by
  cases line with
  | none => exact .inl rfl
  | some line =>
    have name?_eq := name?_readLine vars.valueOf line
    rw [applyLine]
    split
    · next name value read =>
      rw [read] at name?_eq
      exact .inr ⟨name, value, name?_eq.symm, rfl⟩
    · exact .inl rfl
    · exact .inl rfl

theorem extendBy_cons (vars : Variables) (line : Option (List Char))
    (rest : List (Option (List Char))) :
    vars.extendBy (line :: rest) =
      if isMalformed line then vars else (vars.applyLine line).extendBy rest := by
  cases line with
  | none => rfl
  | some line =>
    have malformed := readLine_eq_malformed_iff vars.valueOf line
    rw [extendBy, applyLine]
    cases read : readLine vars.valueOf line <;> simp_all

/-- What every assignment of a file keeps holds of the environment that the file extends. -/
theorem extendBy_invariant {P : Variables → Prop}
    (kept : ∀ {vars : Variables} {name value : String},
      (∃ line ∈ lines, assignedName? line = some name) → P vars → P (vars.setNew name value))
    (start : P vars) : P (vars.extendBy lines) := by
  induction lines generalizing vars with
  | nil => exact start
  | cons line rest ih =>
    rw [extendBy_cons]
    split
    · exact start
    · -- The rest extends what the first line leaves.
      refine ih (fun ⟨later, member, assigns⟩ =>
        kept ⟨later, List.mem_cons_of_mem _ member, assigns⟩) ?_
      obtain same | ⟨name, value, assigns, set⟩ := vars.applyLine_cases line
      · rw [same]
        exact start
      · rw [set]
        exact kept ⟨line, List.mem_cons_self, assigns⟩ start

/-- A file of variables takes none away and changes none. -/
theorem subset_extendBy (vars : Variables) (lines : List (Option (List Char))) :
    vars ⊆ vars.extendBy lines := by
  refine extendBy_invariant (P := (vars ⊆ ·)) ?_ (List.Subset.refl vars)
  intro extended name value _ subset
  unfold setNew
  split
  · exact subset
  · exact List.subset_append_of_subset_left _ subset

theorem lookup_extendBy_of_eq_some (set : vars.lookup name = some value) :
    (vars.extendBy lines).lookup name = some value := by
  refine extendBy_invariant (P := (·.lookup name = some value)) ?_ set
  intro extended other otherValue _ kept
  rw [lookup_setNew, kept, Option.some_or]

theorem lookup_extendBy_of_unassigned
    (unassigned : ∀ line ∈ lines, assignedName? line ≠ some name) :
    (vars.extendBy lines).lookup name = vars.lookup name := by
  refine extendBy_invariant (P := (·.lookup name = vars.lookup name)) ?_ rfl
  rintro extended other otherValue ⟨line, member, assigns⟩ kept
  have different : name ≠ other := by
    rintro rfl
    exact unassigned line member assigns
  rw [lookup_setNew, kept, if_neg different, Option.or_none]

/-- A file sets a new variable once. -/
theorem lookup_extendBy_of_mem (unset : vars.lookup name = none)
    (member : (name, value) ∈ vars.extendBy lines) :
    (vars.extendBy lines).lookup name = some value := by
  -- Every entry of the name is the first one, which is what looking up gives.
  refine extendBy_invariant (P := fun extended : Variables =>
    ∀ value, (name, value) ∈ extended → extended.lookup name = some value) ?_ ?_ value member
  · intro extended other otherValue _ kept held there
    rw [lookup_setNew]
    unfold setNew at there
    split at there
    · rw [kept held there, Option.some_or]
    · next free =>
      obtain before | added := List.mem_append.mp there
      · rw [kept held before, Option.some_or]
      · cases List.mem_singleton.mp added
        rw [Option.not_isSome_iff_eq_none.mp free, if_pos rfl, Option.none_or]
  · intro held there
    exact absurd (List.lookup_eq_none_iff.mp unset (name, held) there) (by simp)

/-! ## Malformed lines -/

theorem extendBy_append_of_malformed (malformed : ∃ line ∈ before, isMalformed line = true)
    (after : List (Option (List Char))) :
    vars.extendBy (before ++ after) = vars.extendBy before := by
  induction before generalizing vars with
  | nil =>
    obtain ⟨line, member, -⟩ := malformed
    cases member
  | cons first rest ih =>
    rw [List.cons_append, extendBy_cons, extendBy_cons]
    split
    · rfl
    · next wellFormed =>
      obtain ⟨line, member, isMalformed⟩ := malformed
      -- The first line is well-formed, so the malformed one stands behind it.
      obtain rfl | later := List.mem_cons.mp member
      · exact absurd isMalformed wellFormed
      · exact ih ⟨line, later, isMalformed⟩

theorem extendBy_append_of_wellFormed (wellFormed : ∀ line ∈ before, isMalformed line = false)
    (after : List (Option (List Char))) :
    vars.extendBy (before ++ after) = (vars.extendBy before).extendBy after := by
  induction before generalizing vars with
  | nil => rfl
  | cons first rest ih =>
    have ofFirst := Bool.eq_false_iff.mp (wellFormed first List.mem_cons_self)
    rw [List.cons_append, extendBy_cons, extendBy_cons, if_neg ofFirst, if_neg ofFirst]
    exact ih fun line member => wellFormed line (List.mem_cons_of_mem _ member)

/-- The first line that assigns to a new name sets it if and only if no malformed line stands
before it. -/
theorem lookup_extendBy_eq_some_iff {line : List Char} (unset : vars.lookup name = none)
    (first : ∀ earlier ∈ before, assignedName? earlier ≠ some name)
    (assigns : readLine (vars.extendBy before).valueOf line = .assignment name value) :
    (vars.extendBy (before ++ some line :: after)).lookup name = some value ↔
      ∀ earlier ∈ before, isMalformed earlier = false := by
  have free : (vars.extendBy before).lookup name = none :=
    (lookup_extendBy_of_unassigned first).trans unset
  constructor
  · -- A malformed line would end the file before the name is set.
    intro set earlier member
    rw [← Bool.not_eq_true]
    intro malformed
    rw [extendBy_append_of_malformed ⟨earlier, member, malformed⟩, free] at set
    cases set
  · intro wellFormed
    have applied : ((vars.extendBy before).setNew name value).lookup name = some value := by
      rw [lookup_setNew, free, if_pos rfl, Option.none_or]
    rw [extendBy_append_of_wellFormed wellFormed, extendBy, assigns]
    exact lookup_extendBy_of_eq_some applied

end Variables

end CitedAnswers.Environment
