import CitedAnswers.Proofs.Json.Trees

/-! # Passing over what is laid out

A text that lays out any tree is passed over as a whole (`passes_value`), whatever its nesting is,
whether its numbers are in range and whether its strings are text.
-/

namespace CitedAnswers.Json

open CitedAnswers.Text (Symbol symbols)

/-! ## Loops -/

section Loops

variable {α : Type} {P Q : List Char → α → Prop}

/-- The reader passes over a text, behind any white space. -/
def Passes (P : List Char → α → Prop) (skip : List Symbol → Except Failure (List Symbol)) : Prop :=
  ∀ ⦃gap text : List Char⦄ ⦃a : α⦄ ⦃left : List Symbol⦄, IsBlank gap → P text a → Stops left →
    skip (symbols gap ++ (symbols text ++ left)) = .ok left

theorem Listed.imp {text : List Char} {as : List α} (listed : Listed P text as)
    (imp : ∀ ⦃part : List Char⦄ ⦃a : α⦄, part.length ≤ text.length → P part a → Q part a) :
    Listed Q text as := by
  induction listed with
  | last here => exact .last (imp (Nat.le_refl _) here)
  | cons here back front _ ih =>
    refine .cons (imp ?_ here) back front (ih ?_)
    · simp only [List.length_append]
      omega
    · intro part a shorter
      apply imp
      simp only [List.length_append, List.length_cons]
      omega

theorem Inside.imp {text : List Char} {as : List α} (inside : Inside P text as)
    (imp : ∀ ⦃part : List Char⦄ ⦃a : α⦄, part.length ≤ text.length → P part a → Q part a) :
    Inside Q text as := by
  cases inside with
  | nothing blank => exact .nothing blank
  | items front listed back =>
    refine .items front (listed.imp ?_) back
    intro part a shorter
    apply imp
    simp only [List.length_append]
    omega

theorem Named.imp {text : List Char} {entry : List Piece × α} (named : Named P text entry)
    (imp : ∀ ⦃part : List Char⦄ ⦃a : α⦄, part.length ≤ text.length → P part a → Q part a) :
    Named Q text entry := by
  cases named with
  | member spells front back here =>
    refine .member spells front back (imp ?_ here)
    simp only [List.length_append, List.length_cons]
    omega

theorem skipItems_of_listed {item : List Symbol → Except Failure (List Symbol)}
    (starts : Starts P) (passes : Passes P item) {before text gap : List Char} {as : List α}
    (front : IsBlank before) (listed : Listed P text as) (blank : IsBlank gap)
    (left : List Symbol) {fuel : Nat} (enough : text.length ≤ fuel) :
    skipItems item fuel (symbols before ++ (symbols text ++ (symbols gap ++ .char ']' :: left))) =
      .ok left := by
  induction listed generalizing before fuel with
  | last here =>
    obtain ⟨fuel, rfl⟩ := starts.exists_succ here enough
    have closes : Stops (.char ']' :: left) := stops_cons (by decide) left
    simp [skipItems, passes front here (stops_blank blank closes),
      skipSpace_before blank (c := ']') rfl]
  | @cons text after before' others a as here back front' listed ih =>
    simp only [List.length_append, List.length_cons] at enough
    obtain ⟨fuel, rfl⟩ := starts.exists_succ here (show text.length ≤ fuel by omega)
    have shorter : others.length ≤ fuel := by omega
    have first := passes front here (stops_blank back (stops_comma
      (symbols before' ++ (symbols others ++ (symbols gap ++ .char ']' :: left)))))
    simp [skipItems, first, skipSpace_before back (c := ',') rfl,
      ih front' shorter]

/-! ## Members -/

section Members

variable {value : List Symbol → Except Failure (List Symbol)}

theorem skipName_of_spells {spelling gap : List Char} {pieces : List Piece}
    (spells : Spells spelling pieces) (blank : IsBlank gap) (left : List Symbol) :
    skipName (.char '"' :: (symbols spelling ++ .char '"' :: (symbols gap ++ .char ':' :: left))) =
      .ok left := by
  simp [skipName, skipString_of_spells spells, skipSpace_before blank (c := ':') rfl]

/-- Passes over a name and what it names. -/
def skipNamed (value : List Symbol → Except Failure (List Symbol)) (text : List Symbol) :
    Except Failure (List Symbol) :=
  (skipName (skipSpace text)).bind value

theorem passes_named (passes : Passes P value) : Passes (Named P) (skipNamed value) := by
  intro gap text named left blank here stops
  cases here with
  | @member spelling before after text name a spells front back here =>
    rw [symbols_named, skipNamed, skipSpace_before blank rfl, skipName_of_spells spells front]
    exact passes back here stops

theorem skipMembers_succ (fuel : Nat) (text : List Symbol) :
    skipMembers value (fuel + 1) text =
      match skipNamed value text with
      | .error e => .error e
      | .ok rest =>
        match skipSpace rest with
        | [] => failAt .endInObject []
        | s :: left =>
          if s = .char '\x7d' then .ok left
          else if s = .char ',' then skipMembers value fuel left
          else failPast .expectedObjectCommaOrEnd (s :: left) := by
  rw [skipMembers, skipNamed]
  cases skipName (skipSpace text) <;> rfl

theorem skipMembers_of_listed (passes : Passes P value) {before text gap : List Char}
    {members : List (List Piece × α)} (front : IsBlank before)
    (listed : Listed (Named P) text members) (blank : IsBlank gap) (left : List Symbol) {fuel : Nat}
    (enough : text.length ≤ fuel) :
    skipMembers value fuel
      (symbols before ++ (symbols text ++ (symbols gap ++ .char '\x7d' :: left))) = .ok left := by
  induction listed generalizing before fuel with
  | last here =>
    obtain ⟨fuel, rfl⟩ := Starts.exists_succ starts_named here enough
    have closes : Stops (.char '\x7d' :: left) := stops_cons (by decide) left
    simp [skipMembers_succ, passes_named passes front here (stops_blank blank closes),
      skipSpace_before blank (c := '\x7d') rfl]
  | @cons text after before' others a as here back front' listed ih =>
    simp only [List.length_append, List.length_cons] at enough
    obtain ⟨fuel, rfl⟩ := Starts.exists_succ starts_named here
      (show text.length ≤ fuel by omega)
    have shorter : others.length ≤ fuel := by omega
    have first := passes_named passes front here (stops_blank back (stops_comma
      (symbols before' ++ (symbols others ++ (symbols gap ++ .char '\x7d' :: left)))))
    simp [skipMembers_succ, first, skipSpace_before back (c := ',') rfl, ih front' shorter]

end Members

end Loops

/-! ## Values -/

theorem skipNested_blank {gap : List Char} (blank : IsBlank gap) (fuel : Nat)
    (text : List Symbol) :
    skipNested (fuel + 1) (symbols gap ++ text) = skipNested (fuel + 1) text := by
  unfold skipNested
  rw [skipSpace_blank blank]

theorem skipNested_of_digit {c : Char} {d : Nat} (digit : digit? (.char c) = some d) (fuel : Nat)
    (rest : List Symbol) :
    skipNested (fuel + 1) (.char c :: rest) = skipNumber (.char c :: rest) := by
  obtain ⟨lexeme, -⟩ := begins_of_digit digit
  simp [skipNested, skipSpace_of_not_isSpace lexeme, digit, ne_of_digit digit (x := 'n') rfl,
    ne_of_digit digit (x := 't') rfl, ne_of_digit digit (x := 'f') rfl,
    ne_of_digit digit (x := '-') rfl]

theorem skipNested_array {fuel : Nat} {P : List Char → Tree → Prop} (starts : Starts P)
    (passes : Passes P (skipNested fuel)) {text : List Char} {items : List Tree}
    (inside : Inside P text items) (left : List Symbol) :
    skipNested (fuel + 1) (.char '[' :: (symbols text ++ .char ']' :: left)) = .ok left := by
  cases inside with
  | nothing blank =>
    simp [skipNested, skipSpace_of_not_isSpace (s := .char '[') rfl,
      skipSpace_before blank (c := ']') rfl, digit?]
  | @items before text after _ front listed back =>
    obtain ⟨c, rest, rfl, lexeme, noBracket, -⟩ := listed.starts starts
    have entered : skipNested (fuel + 1)
        (.char '[' :: (symbols (before ++ c :: rest ++ after) ++ .char ']' :: left)) =
          skipItems (skipNested fuel)
            (symbols (c :: rest) ++ (symbols after ++ .char ']' :: left)).length
            (symbols [] ++ (symbols (c :: rest) ++ (symbols after ++ .char ']' :: left))) := by
      simp [skipNested, skipSpace_of_not_isSpace (s := .char '[') rfl, digit?,
        skipSpace_before front lexeme, noBracket]
    rw [entered]
    refine skipItems_of_listed starts passes isBlank_nil listed back left ?_
    simp [symbols]

theorem skipNested_object {fuel : Nat} {P : List Char → Tree → Prop}
    (passes : Passes P (skipNested fuel)) {text : List Char} {members : List (List Piece × Tree)}
    (inside : Inside (Named P) text members) (left : List Symbol) :
    skipNested (fuel + 1) (.char '\x7b' :: (symbols text ++ .char '\x7d' :: left)) = .ok left := by
  cases inside with
  | nothing blank =>
    simp [skipNested, skipSpace_of_not_isSpace (s := .char '\x7b') rfl,
      skipSpace_before blank (c := '\x7d') rfl, digit?]
  | @items before text after _ front listed back =>
    obtain ⟨rest, rfl⟩ := quote_of_listed listed
    have entered : skipNested (fuel + 1)
        (.char '\x7b' :: (symbols (before ++ '"' :: rest ++ after) ++ .char '\x7d' :: left)) =
          skipMembers (skipNested fuel)
            (symbols ('"' :: rest) ++ (symbols after ++ .char '\x7d' :: left)).length
            (symbols [] ++ (symbols ('"' :: rest) ++ (symbols after ++ .char '\x7d' :: left))) := by
      simp [skipNested, skipSpace_of_not_isSpace (s := .char '\x7b') rfl, digit?,
        skipSpace_before front (c := '"') rfl]
    rw [entered]
    refine skipMembers_of_listed passes isBlank_nil listed back left ?_
    simp [symbols]

/-- A text of fewer characters than there is fuel for. -/
def LaysBelow (fuel : Nat) (text : List Char) (tree : Tree) : Prop :=
  text.length < fuel ∧ Lays text tree

theorem passes_nested (fuel : Nat) : Passes (LaysBelow fuel) (skipNested fuel) := by
  -- What is nested stands in a shorter text, so the fuel that is left is enough for it.
  intro gap text tree left blank here stops
  obtain ⟨short, lays⟩ := here
  obtain ⟨fuel, rfl⟩ := Nat.exists_eq_add_one_of_ne_zero (Nat.ne_zero_of_lt short)
  rw [skipNested_blank blank]
  cases lays with
  | null | true | false => rfl
  | number writes =>
    cases writes with
    | plain sign magnitude =>
      have passed := skipNumber_of_writes magnitude stops
      obtain ⟨d, rest, small, rfl⟩ := digit_of_writes magnitude
      rw [symbols_cons, List.cons_append, skipNested_of_digit (digit?_digitChar small)]
      exact passed
    | minus sign magnitude => exact skipNumber_of_writes magnitude stops
  | @string text pieces spells =>
    have passed := skipString_of_spells spells left
    simpa [skipNested, skipSpace_of_not_isSpace (s := .char '"') rfl, digit?, quoted] using passed
  | @array text items inside =>
    simp only [List.length_append, List.length_cons] at short
    rw [symbols_enclosed]
    refine skipNested_array (fun _ _ here => starts_lays here.2) (passes_nested fuel)
      (inside.imp ?_) left
    intro part tree shorter lays
    exact ⟨by omega, lays⟩
  | @object text members inside =>
    simp only [List.length_append, List.length_cons] at short
    rw [symbols_enclosed]
    refine skipNested_object (passes_nested fuel) (inside.imp ?_) left
    intro part named shorter here
    refine here.imp ?_
    intro part' tree shorter' lays
    exact ⟨by omega, lays⟩
termination_by fuel

theorem passes_value : Passes Lays skipValue := by
  intro gap text tree left blank lays stops
  refine passes_nested _ blank ⟨?_, lays⟩ stops
  simp only [List.length_append, symbols, List.length_map]
  omega

end CitedAnswers.Json
