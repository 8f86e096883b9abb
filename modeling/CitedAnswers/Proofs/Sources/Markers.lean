import CitedAnswers.Proofs.Sources.Starts

/-! # The first marker of a text

A marker opens with a bracket, blanks, a run of digits and points, blanks and the dash (`Opening`).
The first position at which a text reads an opening decides its start (`Starts`), also when the run
there is no number: no later marker is looked at.

Nothing but that opening has a part in it (`startSeconds_eq_iff`).  For what stands in front this
holds because an opening has no bracket but its first character: one that begins before another
cannot reach into it (`opensAt_of_append`).
-/

namespace CitedAnswers.Sources

open CitedAnswers.Number (wholeSeconds)
open CitedAnswers.Text (isBlank trimStart)

/-! ## Openings -/

/-- How a marker opens.  Neither a blank nor the dash continues a run, so the run is all of it. -/
structure Opening where
  front : List Char
  run : List Char
  back : List Char
  blankFront : ∀ c ∈ front, isBlank c = true
  nonempty : run ≠ []
  runChars : ∀ c ∈ run, isRunChar c = true
  blankBack : ∀ c ∈ back, isBlank c = true

namespace Opening

def chars (o : Opening) : List Char :=
  '[' :: (o.front ++ (o.run ++ (o.back ++ [dash])))

/-- Whether a text reads the opening at a position. -/
def OpensAt (text : List Char) (i : Nat) (o : Opening) : Prop :=
  o.chars <+: text.drop i

/-- Whether a text reads the opening at a position, and none at a position before it. -/
structure OpensFirst (text : List Char) (i : Nat) (o : Opening) : Prop where
  opens : OpensAt text i o
  least : ∀ j < i, ∀ other, ¬OpensAt text j other

theorem bracket_not_mem (o : Opening) : '[' ∉ o.front ++ (o.run ++ (o.back ++ [dash])) := by
  have unblank : ¬isBlank '[' = true := by decide
  have unrun : ¬isRunChar '[' = true := by decide
  simp only [List.mem_append, List.mem_singleton, not_or]
  refine ⟨fun member => unblank (o.blankFront _ member), fun member => unrun (o.runChars _ member),
    fun member => unblank (o.blankBack _ member), by decide⟩

end Opening

open Opening (OpensAt OpensFirst)

/-! ## Finding the first -/

/-- A text begins with an opening exactly where a run is read off it. -/
theorem runHere?_eq_some_iff {cs run : List Char} :
    runHere? cs = some run ↔ ∃ o : Opening, o.run = run ∧ o.chars <+: cs := by
  constructor
  · intro found
    cases cs with
    | nil => cases found
    | cons c rest =>
      simp only [runHere?, Option.ite_none_right_eq_some, Bool.and_eq_true, Bool.not_eq_true',
        List.isEmpty_eq_false_iff, beq_iff_eq, Option.some.injEq] at found
      obtain ⟨rfl, ⟨nonempty, ends⟩, rfl⟩ := found
      obtain ⟨behind, ends⟩ := List.head?_eq_some_iff.mp ends
      have front : rest.takeWhile isBlank ++ trimStart rest = rest :=
        List.takeWhile_append_dropWhile
      generalize trimStart rest = body at nonempty ends front ⊢
      have run : body.takeWhile isRunChar ++ body.dropWhile isRunChar = body :=
        List.takeWhile_append_dropWhile
      generalize body.dropWhile isRunChar = after at ends run
      have back : after.takeWhile isBlank ++ trimStart after = after :=
        List.takeWhile_append_dropWhile
      refine ⟨⟨rest.takeWhile isBlank, body.takeWhile isRunChar, after.takeWhile isBlank,
        fun c => List.mem_takeWhile_imp, nonempty, fun c => List.mem_takeWhile_imp,
        fun c => List.mem_takeWhile_imp⟩, rfl, behind, ?_⟩
      rw [ends] at back
      simp only [Opening.chars, List.cons_append, List.append_assoc, List.nil_append]
      rw [back, run, front]
  · rintro ⟨o, rfl, rest, rfl⟩
    have found := runHere?_marker o.blankFront o.nonempty o.runChars o.blankBack rest
    simpa only [Opening.chars, List.cons_append, List.append_assoc, List.nil_append] using found

theorem runHere?_eq_none_iff {cs : List Char} :
    runHere? cs = none ↔ ∀ o, ¬OpensAt cs 0 o := by
  rw [Option.eq_none_iff_forall_ne_some]
  constructor
  · intro none o opens
    exact none o.run (runHere?_eq_some_iff.mpr ⟨o, rfl, opens⟩)
  · intro none run found
    obtain ⟨o, -, opens⟩ := runHere?_eq_some_iff.mp found
    exact none o opens

theorem not_opensAt_nil (i : Nat) (o : Opening) : ¬OpensAt [] i o := by
  unfold Opening.OpensAt
  rw [List.drop_nil]
  intro opens
  cases List.prefix_nil.mp opens

theorem firstRun?_eq_some_iff {cs run : List Char} :
    firstRun? cs = some run ↔ ∃ i o, OpensFirst cs i o ∧ o.run = run := by
  induction cs with
  | nil =>
    simp only [firstRun?, reduceCtorEq, false_iff]
    rintro ⟨i, o, first, -⟩
    exact not_opensAt_nil i o first.opens
  | cons c rest ih =>
    cases here : runHere? (c :: rest) with
    | some found =>
      obtain ⟨o, same, opens⟩ := runHere?_eq_some_iff.mp here
      simp only [firstRun?, here, Option.some.injEq]
      constructor
      · rintro rfl
        exact ⟨0, o, ⟨opens, fun j before => absurd before (Nat.not_lt_zero j)⟩, same⟩
      · rintro ⟨i, other, first, rfl⟩
        cases i with
        | zero =>
          have both := runHere?_eq_some_iff.mpr ⟨other, rfl, first.opens⟩
          exact Option.some.inj (here.symm.trans both)
        | succ i => exact absurd opens (first.least 0 (Nat.succ_pos i) o)
    | none =>
      have nothing := runHere?_eq_none_iff.mp here
      rw [firstRun?, here, ih]
      -- A position in the rest is one less than the same position in the whole.
      constructor
      · rintro ⟨i, o, first, same⟩
        refine ⟨i + 1, o, ⟨first.opens, fun j before other => ?_⟩, same⟩
        cases j with
        | zero => exact nothing other
        | succ j => exact first.least j (Nat.lt_of_succ_lt_succ before) other
      · rintro ⟨i, o, first, same⟩
        cases i with
        | zero => exact absurd first.opens (nothing o)
        | succ i =>
          exact ⟨i, o, ⟨first.opens, fun j before other =>
            first.least (j + 1) (Nat.succ_lt_succ before) other⟩, same⟩

/-- A text that reads an opening somewhere reads one first. -/
theorem exists_opensFirst {cs : List Char} (some : ∃ i o, OpensAt cs i o) :
    ∃ i o, OpensFirst cs i o := by
  classical
  obtain ⟨o, opens⟩ := Nat.find_spec some
  exact ⟨Nat.find some, o, opens, fun j before other opens =>
    Nat.find_min some before ⟨other, opens⟩⟩

theorem firstRun?_eq_none_iff {cs : List Char} :
    firstRun? cs = none ↔ ∀ i o, ¬OpensAt cs i o := by
  rw [Option.eq_none_iff_forall_ne_some]
  constructor
  · intro none i o opens
    obtain ⟨i, o, first⟩ := exists_opensFirst ⟨i, o, opens⟩
    exact none o.run (firstRun?_eq_some_iff.mpr ⟨i, o, first, rfl⟩)
  · intro none run found
    obtain ⟨i, o, first, -⟩ := firstRun?_eq_some_iff.mp found
    exact none i o first.opens

/-! ## Starts -/

namespace Opening

/-- The start that an opening gives, wherever it stands. -/
def seconds (o : Opening) : Nat :=
  if IsNumeral o.run then wholeSeconds (decimalValue o.run) else 0

theorem runSeconds_run (o : Opening) : runSeconds o.run = o.seconds :=
  runSeconds_eq o.runChars o.nonempty

/-- An opening in front of a bracket is read without it. -/
theorem opensAt_of_append {before behind : List Char} {i : Nat} {o : Opening}
    (inFront : i < before.length) (opens : OpensAt (before ++ '[' :: behind) i o) :
    OpensAt before i o := by
  unfold OpensAt at opens ⊢
  rw [List.drop_append_of_le_length (Nat.le_of_lt inFront)] at opens
  rcases List.prefix_or_prefix_of_prefix opens (List.prefix_append (before.drop i) _) with
    short | ⟨more, long⟩
  · exact short
  · -- Else the opening takes up all that is in front and goes on, but it cannot have the bracket.
    cases more with
    | nil =>
      rw [List.append_nil] at long
      simp [long]
    | cons c more =>
      rw [← long, List.prefix_append_right_inj, List.cons_prefix_cons] at opens
      obtain ⟨rfl, -⟩ := opens
      obtain ⟨first, others, front⟩ : ∃ first others, before.drop i = first :: others :=
        List.exists_cons_of_ne_nil (List.drop_eq_nil_iff.not.mpr (Nat.not_le.mpr inFront))
      rw [front, List.cons_append] at long
      have inside := (List.cons.inj long).2
      exact absurd (inside ▸ List.mem_append_right others List.mem_cons_self) o.bracket_not_mem

theorem opensFirst_behind {before : List Char} (none : ∀ i other, ¬OpensAt before i other)
    (o : Opening) (rest : List Char) :
    OpensFirst (before ++ o.chars ++ rest) before.length o where
  opens := by
    unfold OpensAt
    rw [List.append_assoc, List.drop_left]
    exact List.prefix_append _ _
  least j inFront other opens := by
    rw [List.append_assoc] at opens
    exact none j other (opensAt_of_append inFront opens)

end Opening

/-- When a text starts: at nothing if it has no marker, and else at the value of the run of its first
marker, which counts as nothing when it has more than one point or no digit. -/
inductive Starts (text : String) : Nat → Prop where
  | unmarked (none : ∀ i o, ¬OpensAt text.toList i o) : Starts text 0
  | unreadable {i : Nat} {o : Opening} (first : OpensFirst text.toList i o)
      (broken : 1 < o.run.count '.' ∨ ∀ c ∈ o.run, c.isDigit = false) : Starts text 0
  | timed {i : Nat} {o : Opening} (first : OpensFirst text.toList i o)
      (points : o.run.count '.' ≤ 1) (digit : ∃ c ∈ o.run, c.isDigit = true) :
      Starts text (wholeSeconds (decimalValue o.run))

theorem startSeconds_of_opensFirst {text : String} {i : Nat} {o : Opening}
    (first : OpensFirst text.toList i o) : startSeconds text = o.seconds := by
  rw [startSeconds, firstRun?_eq_some_iff.mpr ⟨i, o, first, rfl⟩]
  exact o.runSeconds_run

theorem not_isNumeral_iff {run : List Char} :
    ¬IsNumeral run ↔ 1 < run.count '.' ∨ ∀ c ∈ run, c.isDigit = false := by
  rw [IsNumeral, not_and_or, Nat.not_le]
  simp only [not_exists, not_and, Bool.not_eq_true]

theorem starts_startSeconds (text : String) : Starts text (startSeconds text) := by
  cases found : firstRun? text.toList with
  | none =>
    rw [startSeconds, found]
    exact .unmarked (firstRun?_eq_none_iff.mp found)
  | some run =>
    obtain ⟨i, o, first, rfl⟩ := firstRun?_eq_some_iff.mp found
    rw [startSeconds_of_opensFirst first, Opening.seconds]
    split
    · next numeral => exact .timed first numeral.1 numeral.2
    · next broken => exact .unreadable first (not_isNumeral_iff.mp broken)

theorem eq_startSeconds_of_starts {text : String} {seconds : Nat} (starts : Starts text seconds) :
    startSeconds text = seconds := by
  cases starts with
  | unmarked none => rw [startSeconds, firstRun?_eq_none_iff.mpr none]
  | unreadable first broken =>
    rw [startSeconds_of_opensFirst first, Opening.seconds, if_neg (not_isNumeral_iff.mpr broken)]
  | timed first points digit =>
    rw [startSeconds_of_opensFirst first, Opening.seconds, if_pos ⟨points, digit⟩]

/-- The start of a text is decided by its first marker.  Neither what stands in front of this, if no
marker begins in it, nor what stands behind its dash has an influence. -/
theorem startSeconds_eq_iff :
    (∀ text seconds, startSeconds text = seconds ↔ Starts text seconds) ∧
      ∀ (before : List Char) (o : Opening) (rest : List Char),
        (∀ i other, ¬OpensAt before i other) →
          startSeconds (String.ofList (before ++ o.chars ++ rest)) =
            startSeconds (String.ofList o.chars) := by
  constructor
  · intro text seconds
    constructor
    · rintro rfl
      exact starts_startSeconds text
    · exact eq_startSeconds_of_starts
  · intro before o rest none
    have inside := Opening.opensFirst_behind none o rest
    have alone := Opening.opensFirst_behind not_opensAt_nil o []
    rw [← String.toList_ofList (l := before ++ o.chars ++ rest)] at inside
    rw [List.nil_append, List.append_nil, ← String.toList_ofList (l := o.chars)] at alone
    rw [startSeconds_of_opensFirst inside, startSeconds_of_opensFirst alone]

/-- An opening with blanks that are not all ASCII. -/
def spaced : Opening where
  front := [' ', Char.ofNat 0x3000]
  run := "12.9".toList
  back := []
  blankFront := List.all_eq_true.mp rfl
  nonempty := List.cons_ne_nil _ _
  runChars := List.all_eq_true.mp rfl
  blankBack := List.all_eq_true.mp rfl

theorem startSeconds_eq_iff_nested :
    startSeconds "[a] [[1.2.3 – 9] [5 – 6]" = 0 ∧
      startSeconds (String.ofList ("[1 - 2] [ [".toList ++ spaced.chars ++ " x [7 – 8]".toList)) =
        12 := by
  constructor
  · apply (startSeconds_eq_iff.1 _ 0).mpr
    have found : firstRun? "[a] [[1.2.3 – 9] [5 – 6]".toList = some "1.2.3".toList := rfl
    obtain ⟨i, o, first, run⟩ := firstRun?_eq_some_iff.mp found
    exact .unreadable first (.inl (by rw [run]; decide))
  · rw [startSeconds_eq_iff.2 _ spaced _
      (firstRun?_eq_none_iff.mp (rfl : firstRun? "[1 - 2] [ [".toList = none))]
    decide +kernel

end CitedAnswers.Sources
