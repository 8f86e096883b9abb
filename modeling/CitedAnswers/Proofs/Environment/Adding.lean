import CitedAnswers.Proofs.Environment.Extending

/-! # Files as assignments

A file that puts in no variables says the same whatever is set (`IsLiteral`), so its assignments can
be read off it.  If no line of it is malformed, it adds to an environment, behind what is there, its
first assignment to each name that is not set (`extendBy_eq_append`).
-/

namespace CitedAnswers.Environment

/-! ## Lines that put in nothing -/

/-- Whether a line says the same whatever values variables have. -/
def IsLiteral (line : List Char) : Prop :=
  ∀ valueOf, readLine valueOf line = readLine (fun _ => "") line

/-- Whether a reader stands in the name of a variable. -/
def InValue.isName : InValue → Bool
  | named _ _ | braced _ _ => true
  | plain _ | verbatim | escape _ | ended => false

theorem readValue_of_not_mem (valueOf valueOf' : String → String) {here : InValue} {cs : List Char}
    (outside : here.isName = false) (noDollar : '$' ∉ cs) :
    readValue valueOf here cs = readValue valueOf' here cs := by
  -- Without a dollar sign the reader never comes to a name.
  fun_induction readValue valueOf here cs <;> grind [readValue, InValue.isName]

theorem suffix_of_takeName? {cs rest : List Char} {name : String}
    (taken : takeName? cs = some (name, rest)) : rest <:+ cs := by
  unfold takeName? at taken
  split at taken
  · cases taken
    exact (List.dropWhile_suffix _).trans (List.dropWhile_suffix _)
  · cases taken

theorem suffix_of_takeEquals? {cs rest : List Char} (taken : takeEquals? cs = some rest) :
    rest <:+ cs := by
  unfold takeEquals? at taken
  split at taken
  · cases taken
    exact (List.dropWhile_suffix _).trans (List.suffix_cons _ _)
  · cases taken

theorem suffix_of_takeTarget? {cs rest : List Char} {name : String}
    (taken : takeTarget? cs = some (name, rest)) : rest <:+ cs := by
  unfold takeTarget? at taken
  split at taken
  · cases taken
  · next first behind named =>
    have inside := suffix_of_takeName? named
    split at taken
    · next equals =>
      cases taken
      exact (suffix_of_takeEquals? equals).trans inside
    · split at taken
      · -- Behind the word `export` a name is taken once more.
        obtain ⟨⟨second, left⟩, again, assigned⟩ := Option.bind_eq_some_iff.mp taken
        obtain ⟨value, equals, same⟩ := Option.map_eq_some_iff.mp assigned
        cases same
        exact ((suffix_of_takeEquals? equals).trans (suffix_of_takeName? again)).trans inside
      · cases taken

theorem mem_of_mem_trimmed {c : Char} {line : List Char}
    (there : c ∈ Text.trimStart (Text.trimEnd line)) : c ∈ line := by
  have kept : c ∈ Text.trimEnd line := (List.dropWhile_suffix _).subset there
  rw [Text.trimEnd, List.mem_reverse] at kept
  exact List.mem_reverse.mp ((List.dropWhile_suffix _).subset kept)

theorem isLiteral_of_not_mem {line : List Char} (noDollar : '$' ∉ line) : IsLiteral line := by
  intro valueOf
  unfold readLine
  dsimp only
  split
  · rfl
  · split
    · rfl
    · next name rest target =>
      have absent : '$' ∉ rest := fun there =>
        noDollar (mem_of_mem_trimmed ((suffix_of_takeTarget? target).subset there))
      rw [readValue_of_not_mem valueOf (fun _ => "") rfl absent]

/-! ## Assignments -/

/-- The assignment that a line of a file is, where it puts in no variables. -/
def assignment? : Option (List Char) → Option (String × String)
  | none => none
  | some line =>
    match readLine (fun _ => "") line with
    | .assignment name value => some (name, value)
    | .blank | .malformed => none

def assignments (lines : List (Option (List Char))) : Variables :=
  lines.filterMap assignment?

namespace Variables

/-- What assignments add to an environment: the first one to each name that is not set. -/
def additions (vars assigned : Variables) : Variables :=
  (assigned.filter fun a => (vars.lookup a.1).isNone).eraseDupsBy fun a b => a.1 == b.1

theorem additions_cons_of_set {vars : Variables} {name : String}
    (set : (vars.lookup name).isSome = true) (value : String) (assigned : Variables) :
    vars.additions ((name, value) :: assigned) = vars.additions assigned := by
  have dropped : ¬(vars.lookup name).isNone = true := by simpa using set
  rw [additions, List.filter_cons_of_neg (by exact dropped), additions]

theorem additions_cons_of_unset {vars : Variables} {name : String}
    (unset : vars.lookup name = none) (value : String) (assigned : Variables) :
    vars.additions ((name, value) :: assigned) =
      (name, value) :: additions (vars ++ [(name, value)]) assigned := by
  have kept : (vars.lookup name).isNone = true := by rw [unset]; rfl
  rw [additions, List.filter_cons_of_pos (by exact kept), List.eraseDupsBy_cons, List.filter_filter,
    additions]
  -- Later assignments count if their names are neither set before nor this one.
  congr 2
  apply List.filter_congr
  intro a _
  rw [List.lookup_append, Association.lookup_cons]
  by_cases same : a.1 = name <;> simp [same]

theorem applyLine_of_isLiteral (vars : Variables) {line : List Char} (literal : IsLiteral line) :
    vars.applyLine (some line) =
      match assignment? (some line) with
      | some (name, value) => vars.setNew name value
      | none => vars := by
  rw [applyLine, literal vars.valueOf, assignment?]
  cases readLine (fun _ => "") line <;> rfl

/-- A file without malformed lines that puts in no variables adds its first assignments to names
that are not set. -/
theorem extendBy_eq_append {vars : Variables} {lines : List (Option (List Char))}
    (wellFormed : ∀ line ∈ lines, isMalformed line = false)
    (literal : ∀ line, some line ∈ lines → IsLiteral line) :
    vars.extendBy lines = vars ++ vars.additions (assignments lines) := by
  induction lines generalizing vars with
  | nil => exact (List.append_nil vars).symm
  | cons first rest ih =>
    have ofFirst := Bool.eq_false_iff.mp (wellFormed first List.mem_cons_self)
    cases first with
    | none => exact absurd rfl ofFirst
    | some line =>
      have applied := applyLine_of_isLiteral vars (literal line List.mem_cons_self)
      have behind {vars : Variables} := @ih vars
        (fun line member => wellFormed line (List.mem_cons_of_mem _ member))
        (fun line member => literal line (List.mem_cons_of_mem _ member))
      rw [extendBy_cons, if_neg ofFirst, applied, behind, assignments, assignments]
      cases assigned : assignment? (some line) with
      | none => rw [List.filterMap_cons_none assigned]
      | some entry =>
        obtain ⟨name, value⟩ := entry
        rw [List.filterMap_cons_some assigned]
        dsimp only
        unfold setNew
        split
        · next set => rw [additions_cons_of_set set]
        · next unset =>
          rw [additions_cons_of_unset (Option.not_isSome_iff_eq_none.mp unset), List.append_assoc]
          rfl

end Variables

end CitedAnswers.Environment
