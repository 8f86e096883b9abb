import CitedAnswers.Proofs.Json.Soundness

/-! # Reading through ill-formed octets

What can be read of a mended text can be read of the text itself: a reader that succeeds has come
over what was mended only where it passed over a string (`Keeps`).  So a body is decoded exactly if
the mended body lays out a tree that has a value (`readDocument_eq_ok_iff_isLayout`).

A mended text is longer than the text, so a loop has fewer turns on the text.  It has enough of
them, because every turn takes at least one symbol.
-/

namespace CitedAnswers.Json

open CitedAnswers.Text (Symbol symbols sound?)

variable {α β σ : Type}

/-! ## What is left -/

/-- What is left of a mended text is what is left of the text, mended.  Less is left of the text
than there was, and this holds of it. -/
def Remains (text left : List Symbol) (P : List Symbol → Prop) : Prop :=
  ∃ rest, left = symbols (mended rest) ∧ rest.length < text.length ∧ P rest

/-- A reader that succeeds on a mended text succeeds on the text, and leaves of it what it left of
the mended one. -/
def Keeps (read : List Symbol → Outcome α) : Prop :=
  ∀ ⦃text left : List Symbol⦄ ⦃a : α⦄, read (symbols (mended text)) = .ok (a, left) →
    Remains text left fun rest => read text = .ok (a, rest)

def KeepsPassing (skip : List Symbol → Except Failure (List Symbol)) : Prop :=
  ∀ ⦃text left : List Symbol⦄, skip (symbols (mended text)) = .ok left →
    Remains text left fun rest => skip text = .ok rest

section Remains

variable {text left : List Symbol} {P Q : List Symbol → Prop}

theorem Remains.imp (remains : Remains text left P) (imp : ∀ ⦃rest⦄, P rest → Q rest) :
    Remains text left Q := by
  obtain ⟨rest, left, shorter, holds⟩ := remains
  exact ⟨rest, left, shorter, imp holds⟩

/-- What remains of a later part of a text remains of the text. -/
theorem Remains.within {part : List Symbol} (remains : Remains part left P)
    (atMost : part.length ≤ text.length) (imp : ∀ ⦃rest⦄, P rest → Q rest) :
    Remains text left Q := by
  obtain ⟨rest, left, shorter, holds⟩ := remains
  exact ⟨rest, left, Nat.lt_of_lt_of_le shorter atMost, imp holds⟩

theorem Remains.behind {s : Symbol} (remains : Remains text left P)
    (imp : ∀ ⦃rest⦄, P rest → Q rest) : Remains (s :: text) left Q :=
  remains.within (Nat.le_succ _) imp

end Remains

theorem eq_cons_of_mended {text left : List Symbol} {c : Char} (octets : c ≠ '\uFFFD')
    (begins : symbols (mended text) = .char c :: left) :
    ∃ rest, text = .char c :: rest ∧ left = symbols (mended rest) := by
  cases text with
  | nil => cases begins
  | cons s rest =>
    cases s with
    | char d =>
      cases begins
      exact ⟨rest, rfl, rfl⟩
    | broken w =>
      cases begins
      exact absurd rfl octets

theorem mended_eq_nil_iff {text : List Symbol} : symbols (mended text) = [] ↔ text = [] := by
  cases text with
  | nil => simp
  | cons s rest => cases s <;> simp [mended]

/-! ## Lexemes -/

theorem skipSpace_mended (text : List Symbol) :
    skipSpace (symbols (mended text)) = symbols (mended (skipSpace text)) := by
  induction text with
  | nil => rfl
  | cons s text ih =>
    cases s with
    | broken w => rfl
    | char c =>
      by_cases space : isSpace (.char c) = true
      · have here : skipSpace (.char c :: text) = skipSpace text := List.dropWhile_cons_of_pos space
        have mendedHere : skipSpace (symbols (mended (.char c :: text))) =
            skipSpace (symbols (mended text)) := List.dropWhile_cons_of_pos space
        rw [here, mendedHere, ih]
      · have lexeme : isSpace (.char c) = false := by simpa using space
        simp [skipSpace_of_not_isSpace lexeme]

theorem length_skipSpace_le (text : List Symbol) : (skipSpace text).length ≤ text.length :=
  (List.dropWhile_suffix _).length_le

theorem skipSpace_eq_of_mended {text left : List Symbol} {c : Char} (octets : c ≠ '\uFFFD')
    (begins : skipSpace (symbols (mended text)) = .char c :: left) :
    Remains text left fun rest => skipSpace text = .char c :: rest := by
  rw [skipSpace_mended] at begins
  obtain ⟨rest, same, left⟩ := eq_cons_of_mended octets begins
  have shorter := length_skipSpace_le text
  rw [same, List.length_cons] at shorter
  exact ⟨rest, left, shorter, same⟩

theorem skipSpace_ne_of_mended {text : List Symbol} {c : Char}
    (goesOn : ∀ left, skipSpace (symbols (mended text)) ≠ .char c :: left) (left : List Symbol) :
    skipSpace text ≠ .char c :: left := by
  intro begins
  refine goesOn (symbols (mended left)) ?_
  rw [skipSpace_mended, begins]
  rfl

theorem readLiteral_of_mended {tail : List Char} {text left : List Symbol}
    (octets : ∀ c ∈ tail, c ≠ '\uFFFD')
    (ok : readLiteral tail (symbols (mended text)) = .ok left) :
    ∃ rest, left = symbols (mended rest) ∧ rest.length ≤ text.length ∧
      readLiteral tail text = .ok rest := by
  induction tail generalizing text with
  | nil =>
    cases ok
    exact ⟨text, rfl, Nat.le_refl _, rfl⟩
  | cons c tail ih =>
    obtain ⟨here, others⟩ := List.forall_mem_cons.mp octets
    rw [readLiteral_eq_ok_iff] at ok
    obtain ⟨text, rfl, same⟩ := eq_cons_of_mended here ok
    obtain ⟨rest, left, shorter, ok⟩ := ih others (readLiteral_eq_ok_iff.mpr same.symm)
    exact ⟨rest, left, Nat.le_succ_of_le shorter, by simpa [readLiteral] using ok⟩

theorem digit?_of_mended {text left : List Symbol} {s : Symbol} {d : Nat}
    (begins : symbols (mended text) = s :: left) (digit : digit? s = some d) :
    ∃ rest, text = s :: rest ∧ left = symbols (mended rest) := by
  obtain ⟨small, rfl⟩ := digit?_eq_some_iff.mp digit
  exact eq_cons_of_mended (ne_of_digit digit rfl) begins

theorem takeDigits_mended (text : List Symbol) :
    takeDigits (symbols (mended text)) =
      ((takeDigits text).1, symbols (mended (takeDigits text).2)) := by
  induction text with
  | nil => rfl
  | cons s text ih =>
    cases s with
    | broken w => rfl
    | char c =>
      cases digit : digit? (.char c) with
      | none => simp [takeDigits, digit]
      | some d => simp [takeDigits, digit, ih]

theorem length_takeDigits_le (text : List Symbol) :
    (takeDigits text).2.length ≤ text.length := by
  obtain ⟨cut, -⟩ := eq_figures_append text
  conv => rhs; rw [cut]
  simp

theorem keeps_readFigures (atEnd : Fault) (negative : Bool) :
    Keeps (readFigures atEnd negative) := by
  intro text left e ok
  obtain ⟨d, inner, small, begins, rfl, rfl⟩ := readFigures_eq_ok_iff.mp ok
  obtain ⟨rest, rfl, rfl⟩ := digit?_of_mended begins (digit?_digitChar small)
  refine ⟨(takeDigits rest).2, ?_, Nat.lt_succ_of_le (length_takeDigits_le rest), ?_⟩
  · rw [takeDigits_mended]
  · rw [takeDigits_mended]
    exact readFigures_eq_ok_iff.mpr ⟨d, rest, small, rfl, rfl, rfl⟩

theorem keeps_readExponent (atEnd : Fault) : Keeps (readExponent atEnd) := by
  intro text left e ok
  obtain ⟨sign, inner, isSign, same, read⟩ := readExponent_eq_ok_iff.mp ok
  rcases isSign with ⟨rfl, plain⟩ | rfl
  · rw [symbols_nil, List.nil_append] at same
    rw [← same] at read
    have remains := keeps_readFigures atEnd e.1 read
    exact remains.imp fun _ read =>
      readExponent_eq_ok_iff.mpr ⟨[], text, .inl ⟨rfl, plain⟩, rfl, read⟩
  · have octets : (if e.1 then '-' else '+') ≠ '\uFFFD' := by split <;> decide
    obtain ⟨behind, rfl, rfl⟩ := eq_cons_of_mended octets same
    have remains := keeps_readFigures atEnd e.1 read
    exact remains.behind fun _ read =>
      readExponent_eq_ok_iff.mpr ⟨_, behind, .inr rfl, rfl, read⟩

theorem eq_cons_of_mark {text left : List Symbol} {s : Symbol}
    (begins : symbols (mended text) = s :: left) (mark : isExponentMark s = true) :
    ∃ rest, text = s :: rest ∧ left = symbols (mended rest) := by
  rcases isExponentMark_iff.mp mark with rfl | rfl
  · exact eq_cons_of_mended (by decide) begins
  · exact eq_cons_of_mended (by decide) begins

theorem isExponentMark_head_of_mended {text : List Symbol}
    (ends : ∀ s ∈ (symbols (mended text)).head?, isExponentMark s = false) :
    ∀ s ∈ text.head?, isExponentMark s = false := by
  cases text with
  | nil => simp
  | cons s text =>
    cases s with
    | broken w =>
      rintro _ ⟨⟩
      rfl
    | char c => exact ends

theorem readsTail_of_mended {atEnd : Fault} {text left : List Symbol} {fraction : Option (List Nat)}
    {exponent : Option (Bool × List Nat)}
    (tail : ReadsTail atEnd (symbols (mended text)) fraction exponent left) :
    ∃ rest, left = symbols (mended rest) ∧ rest.length ≤ text.length ∧
      ReadsTail atEnd text fraction exponent rest := by
  generalize same : symbols (mended text) = input at tail
  cases tail with
  | nothing ends =>
    subst same
    have noMark := isExponentMark_head_of_mended fun s first => (ends s first).2
    refine ⟨text, rfl, Nat.le_refl _, .nothing fun s first => ⟨?_, noMark s first⟩⟩
    rintro rfl
    obtain ⟨rest, rfl⟩ := List.head?_eq_some_iff.mp first
    exact (ends (.char '.') rfl).1 rfl
  | exponent mark read =>
    obtain ⟨behind, rfl, rfl⟩ := eq_cons_of_mark same mark
    obtain ⟨rest, left, shorter, read⟩ := keeps_readExponent atEnd read
    exact ⟨rest, left, Nat.le_succ_of_le (Nat.le_of_lt shorter), .exponent mark read⟩
  | fraction digits ends =>
    obtain ⟨behind, rfl, rfl⟩ := eq_cons_of_mended (by decide) same
    rw [takeDigits_mended, Prod.mk.injEq] at digits
    obtain ⟨ds, rfl⟩ := digits
    refine ⟨_, rfl, Nat.le_succ_of_le (length_takeDigits_le behind), ?_⟩
    exact .fraction (Prod.ext ds rfl) (isExponentMark_head_of_mended ends)
  | both digits mark read =>
    obtain ⟨behind, rfl, rfl⟩ := eq_cons_of_mended (by decide) same
    rw [takeDigits_mended, Prod.mk.injEq] at digits
    obtain ⟨ds, behindDigits⟩ := digits
    obtain ⟨more, cut, rfl⟩ := eq_cons_of_mark behindDigits mark
    obtain ⟨rest, left, shorter, read⟩ := keeps_readExponent atEnd read
    have atMost := length_takeDigits_le behind
    rw [cut, List.length_cons] at atMost
    refine ⟨rest, left, ?_, .both (Prod.ext ds cut) mark read⟩
    simp only [List.length_cons]
    omega

theorem keeps_readNumeral (atEnd : Fault) (negative : Bool) :
    Keeps (readNumeral atEnd negative) := by
  intro text left n ok
  obtain ⟨nonempty, leading, tail⟩ := readNumeral_eq_ok_iff.mp ok
  rw [takeDigits_mended] at nonempty leading tail
  obtain ⟨fraction, exponent, rfl, reads⟩ := readTail_eq_ok_iff.mp tail
  obtain ⟨rest, left, shorter, reads⟩ := readsTail_of_mended reads
  refine ⟨rest, left, Nat.lt_of_le_of_lt shorter ?_, readNumeral_eq_ok_iff.mpr
    ⟨nonempty, leading, readTail_eq_ok_iff.mpr ⟨_, _, rfl, reads⟩⟩⟩
  obtain ⟨cut, -⟩ := eq_figures_append text
  conv => rhs; rw [cut]
  simpa [figures, symbols, List.length_pos_iff] using nonempty

theorem keeps_readNumber (negative : Bool) : Keeps (readNumber negative) := by
  intro text left x ok
  obtain ⟨n, read, value⟩ := readNumber_eq_ok_iff.mp ok
  have remains := keeps_readNumeral _ _ read
  exact remains.imp fun _ read => readNumber_eq_ok_iff.mpr ⟨n, read, value⟩

theorem keepsPassing_skipNumber : KeepsPassing skipNumber := by
  intro text left ok
  obtain ⟨n, read⟩ := skipNumber_eq_ok_iff.mp ok
  have remains := keeps_readNumeral _ _ read
  exact remains.imp fun _ read => skipNumber_eq_ok_iff.mpr ⟨n, read⟩

theorem readsNumber_of_mended {text left : List Symbol} {x : Numeric}
    (reads : ReadsNumber (symbols (mended text)) x left) :
    Remains text left fun rest => ReadsNumber text x rest := by
  generalize same : symbols (mended text) = input at reads
  cases reads with
  | minus read =>
    obtain ⟨behind, rfl, rfl⟩ := eq_cons_of_mended (by decide) same
    have remains := keeps_readNumber true read
    exact remains.behind fun _ => .minus
  | digits digit read =>
    obtain ⟨d, isDigit⟩ := Option.isSome_iff_exists.mp digit
    obtain ⟨behind, rfl, rfl⟩ := digit?_of_mended same isDigit
    rw [← same] at read
    have remains := keeps_readNumber false read
    exact remains.imp fun _ => .digits digit

/-! ## Strings -/

/-- A character ends a string, or the reader goes on behind it, or it fails there: this does not
depend on what follows. -/
theorem stringFrom_step (state : InString) (seen : List Symbol) (c : Char) :
    (∃ all, ∀ text, stringFrom state seen (.char c :: text) = .ok (all, text)) ∨
      (∃ state' seen', ∀ text, stringFrom state seen (.char c :: text) =
        stringFrom state' seen' text) ∨
      ∀ text, ∃ e, stringFrom state seen (.char c :: text) = .error e := by
  cases state with
  | plain =>
    by_cases quote : c = '"'
    · exact .inl ⟨seen.reverse, fun text => by simp [stringFrom, quote]⟩
    by_cases backslash : c = '\\'
    · exact .inr (.inl ⟨.escape, seen, fun text => by simp [stringFrom, backslash]⟩)
    by_cases control : isControl (.char c) = true
    · exact .inr (.inr fun text => by simp [stringFrom, quote, backslash, control, failPast])
    · exact .inr (.inl ⟨.plain, .char c :: seen, fun text => by
        simp [stringFrom, quote, backslash, control]⟩)
  | escape =>
    by_cases isWord : c = 'u'
    · exact .inr (.inl ⟨.hex 4 0 none, seen, fun text => by simp [stringFrom, isWord]⟩)
    cases stands : shortEscape? c with
    | none => exact .inr (.inr fun text => by simp [stringFrom, stands, failPast])
    | some d =>
      exact .inr (.inl ⟨.plain, .char d :: seen, fun text => by simp [stringFrom, stands]⟩)
  | hex owed value leading =>
    cases digit : hexDigit? c with
    | none =>
      refine .inr (.inr fun text => ?_)
      unfold stringFrom
      simp only [digit, failInHex]
      split <;> exact ⟨_, rfl⟩
    | some d =>
      by_cases last : owed = 1
      · cases meaning : escaped (value * 16 + d) leading with
        | char e =>
          exact .inr (.inl ⟨.plain, .char e :: seen, fun text => by
            simp [stringFrom, digit, last, meaning]⟩)
        | leading high =>
          exact .inr (.inl ⟨.pair high, seen, fun text => by
            simp [stringFrom, digit, last, meaning]⟩)
        | lone =>
          exact .inr (.inr fun text => by simp [stringFrom, digit, last, meaning, failAt])
      · exact .inr (.inl ⟨.hex (owed - 1) (value * 16 + d) leading, seen, fun text => by
          simp [stringFrom, digit, last]⟩)
  | pair high =>
    by_cases backslash : c = '\\'
    · exact .inr (.inl ⟨.pairEscape high, seen, fun text => by simp [stringFrom, backslash]⟩)
    · exact .inr (.inr fun text => by simp [stringFrom, backslash, failPast])
  | pairEscape high =>
    by_cases isWord : c = 'u'
    · exact .inr (.inl ⟨.hex 4 0 (some high), seen, fun text => by simp [stringFrom, isWord]⟩)
    · exact .inr (.inr fun text => by simp [stringFrom, isWord, failPast])

theorem stringFrom_mended_broken (state : InString) (seen rest : List Symbol) (w : Nat) :
    ∃ e, stringFrom state seen (symbols (mended (.broken w :: rest))) = .error e := by
  have lone : escaped (((13 * 16 + 12) * 16 + 0) * 16 + 0) none = .lone := rfl
  cases state with
  | plain => simp [mended, stringFrom, isControl, hexDigit?, lone, failAt]
  | escape => simp [mended, stringFrom, shortEscape?, failPast]
  | hex owed value leading =>
    have noDigit : hexDigit? '\uFFFD' = none := by decide
    simp only [mended, symbols_cons, stringFrom, noDigit, failInHex]
    split <;> exact ⟨_, rfl⟩
  | pair high => simp [mended, stringFrom, failPast]
  | pairEscape high => simp [mended, stringFrom, failPast]

theorem keeps_stringFrom (state : InString) (seen : List Symbol) :
    Keeps (stringFrom state seen) := by
  intro text left all ok
  induction text generalizing state seen with
  | nil =>
    cases state with
    | hex owed value leading =>
      simp only [mended_nil, symbols_nil, stringFrom, failInHex] at ok
      split at ok <;> cases ok
    | plain | escape | pair | pairEscape => cases ok
  | cons s text ih =>
    cases s with
    | broken w =>
      obtain ⟨e, failed⟩ := stringFrom_mended_broken state seen text w
      cases failed.symm.trans ok
    | char c =>
      rw [mended_char, symbols_cons] at ok
      obtain ⟨all', ends⟩ | ⟨state', seen', goesOn⟩ | fails := stringFrom_step state seen c
      · rw [ends] at ok
        cases ok
        exact ⟨text, rfl, Nat.lt_succ_self _, ends text⟩
      · rw [goesOn] at ok
        have remains := ih state' seen' ok
        exact remains.behind fun _ => (goesOn text).trans
      · obtain ⟨e, failed⟩ := fails (symbols (mended text))
        cases failed.symm.trans ok

theorem keeps_readString : Keeps readString := by
  intro text left s ok
  obtain ⟨all, cs, read, sound, rfl⟩ := readString_eq_ok_iff.mp ok
  have remains := keeps_stringFrom _ _ read
  exact remains.imp fun _ read => readString_eq_ok_iff.mpr ⟨all, cs, read, sound, rfl⟩

theorem skipFrom_step (state : InSkipped) (c : Char) :
    (∀ text, skipFrom state (.char c :: text) = .ok text) ∨
      (∃ state', ∀ text, skipFrom state (.char c :: text) = skipFrom state' text) ∨
      ∀ text, ∃ e, skipFrom state (.char c :: text) = .error e := by
  cases state with
  | plain =>
    by_cases quote : c = '"'
    · exact .inl fun text => by simp [skipFrom, quote]
    by_cases backslash : c = '\\'
    · exact .inr (.inl ⟨.escape, fun text => by simp [skipFrom, backslash]⟩)
    by_cases control : isControl (.char c) = true
    · exact .inr (.inr fun text => by simp [skipFrom, quote, backslash, control, failAt])
    · exact .inr (.inl ⟨.plain, fun text => by simp [skipFrom, quote, backslash, control]⟩)
  | escape =>
    by_cases isWord : c = 'u'
    · exact .inr (.inl ⟨.hex 4, fun text => by simp [skipFrom, isWord]⟩)
    cases stands : shortEscape? c with
    | none => exact .inr (.inr fun text => by simp [skipFrom, stands, failPast])
    | some d => exact .inr (.inl ⟨.plain, fun text => by simp [skipFrom, stands]⟩)
  | hex owed =>
    cases digit : hexDigit? c with
    | none =>
      refine .inr (.inr fun text => ?_)
      unfold skipFrom
      simp only [digit, failInHex]
      split <;> exact ⟨_, rfl⟩
    | some d =>
      by_cases last : owed = 1
      · exact .inr (.inl ⟨.plain, fun text => by simp [skipFrom, digit, last]⟩)
      · exact .inr (.inl ⟨.hex (owed - 1), fun text => by simp [skipFrom, digit, last]⟩)

theorem keepsPassing_skipFrom (state : InSkipped) : KeepsPassing (skipFrom state) := by
  intro text left ok
  induction text generalizing state with
  | nil =>
    cases state with
    | hex owed =>
      simp only [mended_nil, symbols_nil, skipFrom, failInHex] at ok
      split at ok <;> cases ok
    | plain | escape => cases ok
  | cons s text ih =>
    cases s with
    | broken w =>
      cases state with
      | plain =>
        -- What stands for the octets is passed over as they are.
        have passed : skipFrom .plain (symbols (mended (.broken w :: text))) =
            skipFrom .plain (symbols (mended text)) := by
          simp [mended, skipFrom, isControl, hexDigit?]
        rw [passed] at ok
        have remains := ih .plain ok
        exact remains.behind fun _ ok => by simpa [skipFrom, isControl] using ok
      | escape => simp [mended, skipFrom, shortEscape?, failPast] at ok
      | hex owed =>
        have noDigit : hexDigit? '\uFFFD' = none := by decide
        simp only [mended, symbols_cons, skipFrom, noDigit, failInHex] at ok
        split at ok <;> cases ok
    | char c =>
      rw [mended_char, symbols_cons] at ok
      obtain ends | ⟨state', goesOn⟩ | fails := skipFrom_step state c
      · rw [ends] at ok
        cases ok
        exact ⟨text, rfl, Nat.lt_succ_self _, ends text⟩
      · rw [goesOn] at ok
        have remains := ih state' ok
        exact remains.behind fun _ => (goesOn text).trans
      · obtain ⟨e, failed⟩ := fails (symbols (mended text))
        cases failed.symm.trans ok

theorem keepsPassing_skipString : KeepsPassing skipString :=
  keepsPassing_skipFrom .plain

/-! ## Passing over -/

theorem keepsPassing_skipName : KeepsPassing skipName := by
  intro text left ok
  obtain ⟨spelling, behind, begins, skipped, colon⟩ := skipName_eq_ok_iff.mp ok
  obtain ⟨text, rfl, rfl⟩ := eq_cons_of_mended (by decide) begins
  obtain ⟨rest, rfl, shorter, skipped⟩ := keepsPassing_skipString skipped
  obtain ⟨value, left, fewer, colon⟩ := skipSpace_eq_of_mended (by decide) colon
  refine ⟨value, left, ?_, skipName_eq_ok_iff.mpr ⟨text, rest, rfl, skipped, colon⟩⟩
  simp only [List.length_cons]
  omega

/-- What passes over a mended text up to some length has its like for the text.  The two may differ
in how deep they go. -/
def KeepsUpTo (bound : Nat) (skip onText : List Symbol → Except Failure (List Symbol)) : Prop :=
  ∀ ⦃text left : List Symbol⦄, text.length ≤ bound → skip (symbols (mended text)) = .ok left →
    Remains text left fun rest => onText text = .ok rest

section Loops

variable {item onText : List Symbol → Except Failure (List Symbol)} {bound fuel turns : Nat}
  {text left : List Symbol}

theorem skipItems_of_mended (keeps : KeepsUpTo bound item onText)
    (within : text.length ≤ bound) (ok : skipItems item fuel (symbols (mended text)) = .ok left)
    (enough : text.length ≤ turns) :
    Remains text left fun rest => skipItems onText turns text = .ok rest := by
  -- On the turns over the mended text.  A turn over the text takes one of its symbols at least, so
  -- that as many turns are left as symbols.
  induction fuel generalizing text turns with
  | zero => cases ok
  | succ fuel ih =>
    obtain ⟨behind, read, more⟩ := skipItems_eq_ok_iff.mp ok
    obtain ⟨rest, rfl, shorter, read⟩ := keeps within read
    obtain ⟨turns, rfl⟩ := Nat.exists_eq_add_one_of_ne_zero (show turns ≠ 0 by omega)
    rcases more with ends | ⟨next, comma, others⟩
    · obtain ⟨end_, left, fewer, ends⟩ := skipSpace_eq_of_mended (by decide) ends
      exact ⟨end_, left, by omega, skipItems_eq_ok_iff.mpr ⟨rest, read, .inl ends⟩⟩
    · obtain ⟨next, rfl, fewer, comma⟩ := skipSpace_eq_of_mended (by decide) comma
      have enough : next.length ≤ turns := by omega
      obtain ⟨end_, left, least, others⟩ := ih (by omega) others enough
      exact ⟨end_, left, by omega,
        skipItems_eq_ok_iff.mpr ⟨rest, read, .inr ⟨next, comma, others⟩⟩⟩

theorem skipMembers_of_mended (keeps : KeepsUpTo bound item onText)
    (within : text.length ≤ bound) (ok : skipMembers item fuel (symbols (mended text)) = .ok left)
    (enough : text.length ≤ turns) :
    Remains text left fun rest => skipMembers onText turns text = .ok rest := by
  induction fuel generalizing text turns with
  | zero => cases ok
  | succ fuel ih =>
    obtain ⟨named, behind, name, read, more⟩ := skipMembers_eq_ok_iff.mp ok
    rw [skipSpace_mended] at name
    obtain ⟨named, rfl, shorterName, name⟩ := keepsPassing_skipName name
    have atMost := length_skipSpace_le text
    obtain ⟨rest, rfl, shorter, read⟩ := keeps (by omega) read
    obtain ⟨turns, rfl⟩ := Nat.exists_eq_add_one_of_ne_zero (show turns ≠ 0 by omega)
    rcases more with ends | ⟨next, comma, others⟩
    · obtain ⟨end_, left, fewer, ends⟩ := skipSpace_eq_of_mended (by decide) ends
      exact ⟨end_, left, by omega,
        skipMembers_eq_ok_iff.mpr ⟨named, rest, name, read, .inl ends⟩⟩
    · obtain ⟨next, rfl, fewer, comma⟩ := skipSpace_eq_of_mended (by decide) comma
      have enough : next.length ≤ turns := by omega
      obtain ⟨end_, left, least, others⟩ := ih (by omega) others enough
      exact ⟨end_, left, by omega,
        skipMembers_eq_ok_iff.mpr ⟨named, rest, name, read, .inr ⟨next, comma, others⟩⟩⟩

end Loops

theorem remains_of_readLiteral {tail : List Char} {text left : List Symbol}
    (octets : ∀ c ∈ tail, c ≠ '\uFFFD')
    (ok : readLiteral tail (symbols (mended text)) = .ok left) (s : Symbol) :
    Remains (s :: text) left fun rest => readLiteral tail text = .ok rest := by
  obtain ⟨rest, left, shorter, ok⟩ := readLiteral_of_mended octets ok
  exact ⟨rest, left, Nat.lt_succ_of_le shorter, ok⟩

theorem passesOver_of_mended {fuel below : Nat}
    (keeps : KeepsUpTo below (skipNested fuel) (skipNested (below + 1)))
    {text left : List Symbol} (within : text.length ≤ below + 1)
    (passes : PassesOver fuel (symbols (mended text)) left) :
    Remains text left fun rest => PassesOver (below + 1) text rest := by
  generalize same : symbols (mended text) = input at passes
  cases passes with
  | null read =>
    obtain ⟨inner, rfl, rfl⟩ := eq_cons_of_mended (by decide) same
    have remains := remains_of_readLiteral (by simp) read (.char 'n')
    exact remains.imp fun _ => .null
  | true read =>
    obtain ⟨inner, rfl, rfl⟩ := eq_cons_of_mended (by decide) same
    have remains := remains_of_readLiteral (by simp) read (.char 't')
    exact remains.imp fun _ => .true
  | false read =>
    obtain ⟨inner, rfl, rfl⟩ := eq_cons_of_mended (by decide) same
    have remains := remains_of_readLiteral (by simp) read (.char 'f')
    exact remains.imp fun _ => .false
  | minus read =>
    obtain ⟨inner, rfl, rfl⟩ := eq_cons_of_mended (by decide) same
    have remains := keepsPassing_skipNumber read
    exact remains.behind fun _ => .minus
  | digits digit read =>
    obtain ⟨d, isDigit⟩ := Option.isSome_iff_exists.mp digit
    obtain ⟨inner, rfl, rfl⟩ := digit?_of_mended same isDigit
    rw [← same] at read
    have remains := keepsPassing_skipNumber read
    exact remains.imp fun _ => .digits digit
  | string read =>
    obtain ⟨inner, rfl, rfl⟩ := eq_cons_of_mended (by decide) same
    have remains := keepsPassing_skipString read
    exact remains.behind fun _ => .string
  | noItems ends =>
    obtain ⟨inner, rfl, rfl⟩ := eq_cons_of_mended (by decide) same
    have remains := skipSpace_eq_of_mended (by decide) ends
    exact remains.behind fun _ => .noItems
  | items goesOn read =>
    obtain ⟨inner, rfl, rfl⟩ := eq_cons_of_mended (by decide) same
    have atMost := length_skipSpace_le inner
    have inBelow : inner.length ≤ below := Nat.le_of_succ_le_succ within
    rw [skipSpace_mended] at read
    have remains := skipItems_of_mended keeps (Nat.le_trans atMost inBelow) read (Nat.le_refl _)
    exact remains.within (Nat.le_succ_of_le atMost) fun _ => .items (skipSpace_ne_of_mended goesOn)
  | noMembers ends =>
    obtain ⟨inner, rfl, rfl⟩ := eq_cons_of_mended (by decide) same
    have remains := skipSpace_eq_of_mended (by decide) ends
    exact remains.behind fun _ => .noMembers
  | members goesOn read =>
    obtain ⟨inner, rfl, rfl⟩ := eq_cons_of_mended (by decide) same
    have atMost := length_skipSpace_le inner
    have inBelow : inner.length ≤ below := Nat.le_of_succ_le_succ within
    rw [skipSpace_mended] at read
    have remains := skipMembers_of_mended keeps (Nat.le_trans atMost inBelow) read (Nat.le_refl _)
    exact remains.within (Nat.le_succ_of_le atMost) fun _ =>
      .members (skipSpace_ne_of_mended goesOn)

theorem keepsUpTo_skipNested (fuel bound : Nat) :
    KeepsUpTo bound (skipNested fuel) (skipNested (bound + 1)) := by
  -- On how deep the mended text may go; how deep the text may go is taken from its own length.
  induction fuel generalizing bound with
  | zero =>
    intro text left _ ok
    cases ok
  | succ fuel ih =>
    intro text left within ok
    have passes := skipNested_eq_ok_iff.mp ok
    rw [skipSpace_mended] at passes
    have atMost := length_skipSpace_le text
    cases bound with
    | zero =>
      cases List.length_eq_zero_iff.mp (Nat.le_zero.mp within)
      cases passes
    | succ below =>
      have remains := passesOver_of_mended (ih below) (Nat.le_trans atMost within) passes
      exact remains.within atMost fun _ => skipNested_eq_ok_iff.mpr

theorem keepsPassing_skipValue : KeepsPassing skipValue :=
  fun text _ ok => keepsUpTo_skipNested _ text.length (Nat.le_refl _) ok

/-! ## Lists and objects -/

theorem readItems_of_mended {item : List Symbol → Outcome α} (keeps : Keeps item)
    {fuel turns : Nat} {text left : List Symbol} {as : List α}
    (ok : readItems item fuel (symbols (mended text)) = .ok (as, left))
    (enough : text.length ≤ turns) :
    Remains text left fun rest => readItems item turns text = .ok (as, rest) := by
  induction fuel generalizing text turns as with
  | zero => cases ok
  | succ fuel ih =>
    obtain ⟨a, behind, read, more⟩ := readItems_eq_ok_iff.mp ok
    obtain ⟨rest, rfl, shorter, read⟩ := keeps read
    obtain ⟨turns, rfl⟩ := Nat.exists_eq_add_one_of_ne_zero (show turns ≠ 0 by omega)
    rcases more with ⟨ends, rfl⟩ | ⟨next, others, comma, some, goesOn, more, rfl⟩
    · obtain ⟨end_, left, fewer, ends⟩ := skipSpace_eq_of_mended (by decide) ends
      exact ⟨end_, left, by omega, readItems_eq_ok_iff.mpr ⟨a, rest, read, .inl ⟨ends, rfl⟩⟩⟩
    · obtain ⟨next, rfl, fewer, comma⟩ := skipSpace_eq_of_mended (by decide) comma
      have atMost := length_skipSpace_le next
      rw [skipSpace_mended] at some more
      have enough : (skipSpace next).length ≤ turns := by omega
      obtain ⟨end_, left, least, more⟩ := ih more enough
      exact ⟨end_, left, by omega, readItems_eq_ok_iff.mpr ⟨a, rest, read, .inr
        ⟨next, others, comma, mt mended_eq_nil_iff.mpr some, skipSpace_ne_of_mended goesOn, more,
          rfl⟩⟩⟩

theorem keeps_readList {item : List Symbol → Outcome α} (keeps : Keeps item) :
    Keeps (readList item) := by
  intro text left as ok
  rcases readList_eq_ok_iff.mp ok with ⟨ends, rfl⟩ | ⟨goesOn, read⟩
  · have remains := skipSpace_eq_of_mended (by decide) ends
    exact remains.imp fun _ ends => readList_eq_ok_iff.mpr (.inl ⟨ends, rfl⟩)
  · have atMost := length_skipSpace_le text
    rw [skipSpace_mended] at read
    have remains := readItems_of_mended keeps read (Nat.le_refl _)
    exact remains.within atMost fun _ read =>
      readList_eq_ok_iff.mpr (.inr ⟨skipSpace_ne_of_mended goesOn, read⟩)

theorem keepsPassing_readColon : KeepsPassing readColon := by
  intro text left ok
  have remains := skipSpace_eq_of_mended (by decide) (readColon_eq_ok_iff.mp ok)
  exact remains.imp fun _ => readColon_eq_ok_iff.mpr

section Members

variable {member : σ → String → List Symbol → Outcome σ}
  (keeps : ∀ gathered name, Keeps (member gathered name))

include keeps

theorem readMembers_of_mended {fuel turns : Nat} {inner left : List Symbol} {gathered all : σ}
    (ok : readMembers member fuel gathered (.char '"' :: symbols (mended inner)) = .ok (all, left))
    (enough : inner.length < turns) :
    Remains inner left fun rest =>
      readMembers member turns gathered (.char '"' :: inner) = .ok (all, rest) := by
  -- A turn begins at the quote of a name, which stands in the text as in the mended one.
  induction fuel generalizing inner turns gathered with
  | zero => cases ok
  | succ fuel ih =>
    obtain ⟨name, behind, more, left, named, read, others⟩ := readMembers_eq_ok_iff.mp ok
    obtain ⟨behind, rfl, shorter, named⟩ := keeps_readString named
    obtain ⟨rest, rfl, fewer, read⟩ := keeps gathered name read
    obtain ⟨turns, rfl⟩ := Nat.exists_eq_add_one_of_ne_zero (show turns ≠ 0 by omega)
    rcases others with ⟨ends, rfl⟩ | ⟨next, inner', comma, begins, others⟩
    · obtain ⟨end_, left, least, ends⟩ := skipSpace_eq_of_mended (by decide) ends
      exact ⟨end_, left, by omega, readMembers_eq_ok_iff.mpr
        ⟨name, behind, _, rest, named, read, .inl ⟨ends, rfl⟩⟩⟩
    · obtain ⟨next, rfl, below, comma⟩ := skipSpace_eq_of_mended (by decide) comma
      rw [begins] at others
      obtain ⟨inner', rfl, least, begins⟩ := skipSpace_eq_of_mended (by decide) begins
      have enough : inner'.length < turns := by omega
      obtain ⟨end_, left, _, others⟩ := ih others enough
      rw [← begins] at others
      exact ⟨end_, left, by omega, readMembers_eq_ok_iff.mpr
        ⟨name, behind, more, rest, named, read, .inr ⟨next, inner', comma, begins, others⟩⟩⟩

theorem keeps_readObject (start : σ) : Keeps (readObject member start) := by
  intro text left all ok
  rcases readObject_eq_ok_iff.mp ok with ⟨ends, rfl⟩ | ⟨inner, begins, read⟩
  · have remains := skipSpace_eq_of_mended (by decide) ends
    exact remains.imp fun _ ends => readObject_eq_ok_iff.mpr (.inl ⟨ends, rfl⟩)
  · rw [begins] at read
    obtain ⟨inner, rfl, shorter, begins⟩ := skipSpace_eq_of_mended (by decide) begins
    have remains := readMembers_of_mended keeps read (Nat.lt_succ_self inner.length)
    refine remains.within (Nat.le_of_lt shorter) fun _ read =>
      readObject_eq_ok_iff.mpr (.inr ⟨inner, begins, ?_⟩)
    rw [begins]
    exact read

end Members

/-! ## Values -/

theorem readsAs_of_mended {depth : Nat} (below : ∀ ⦃d⦄, depth = d + 1 → Keeps (readValue d))
    {text left : List Symbol} {v : Json} (reads : ReadsAs depth (symbols (mended text)) v left) :
    Remains text left fun rest => ReadsAs depth text v rest := by
  generalize same : symbols (mended text) = input at reads
  cases reads with
  | null read =>
    obtain ⟨inner, rfl, rfl⟩ := eq_cons_of_mended (by decide) same
    have remains := remains_of_readLiteral (by simp) read (.char 'n')
    exact remains.imp fun _ => .null
  | true read =>
    obtain ⟨inner, rfl, rfl⟩ := eq_cons_of_mended (by decide) same
    have remains := remains_of_readLiteral (by simp) read (.char 't')
    exact remains.imp fun _ => .true
  | false read =>
    obtain ⟨inner, rfl, rfl⟩ := eq_cons_of_mended (by decide) same
    have remains := remains_of_readLiteral (by simp) read (.char 'f')
    exact remains.imp fun _ => .false
  | number read =>
    subst same
    have remains := readsNumber_of_mended read
    exact remains.imp fun _ => .number
  | string read =>
    obtain ⟨inner, rfl, rfl⟩ := eq_cons_of_mended (by decide) same
    have remains := keeps_readString read
    exact remains.behind fun _ => .string
  | array read =>
    obtain ⟨inner, rfl, rfl⟩ := eq_cons_of_mended (by decide) same
    have remains := keeps_readList (below rfl) read
    exact remains.behind fun _ => .array
  | @object depth _ _ _ read =>
    have keeps (members : List (String × Json)) (name : String) :
        Keeps (readEntry depth members name) := by
      intro text left all ok
      obtain ⟨behind, v, colon, read, rfl⟩ := readEntry_eq_ok_iff.mp ok
      obtain ⟨behind, rfl, shorter, colon⟩ := keepsPassing_readColon colon
      have remains := below rfl read
      exact remains.within (Nat.le_of_lt shorter) fun _ read =>
        readEntry_eq_ok_iff.mpr ⟨behind, v, colon, read, rfl⟩
    obtain ⟨inner, rfl, rfl⟩ := eq_cons_of_mended (by decide) same
    have remains := keeps_readObject keeps [] read
    exact remains.behind fun _ => .object

theorem keeps_of_readsAs {depth : Nat} (below : ∀ ⦃d⦄, depth = d + 1 → Keeps (readValue d)) :
    Keeps (readValue depth) := by
  intro text left v ok
  have reads := readValue_eq_ok_iff.mp ok
  rw [skipSpace_mended] at reads
  have atMost := length_skipSpace_le text
  have remains := readsAs_of_mended below reads
  exact remains.within atMost fun _ => readValue_eq_ok_iff.mpr

theorem keeps_readValue (depth : Nat) : Keeps (readValue depth) := by
  induction depth with
  | zero =>
    refine keeps_of_readsAs fun d same => ?_
    cases same
  | succ depth ih =>
    refine keeps_of_readsAs fun d same => ?_
    cases same
    exact ih

/-! ## Shapes -/

theorem Keeps.map {read : List Symbol → Outcome α} (keeps : Keeps read) (f : α → β) :
    Keeps fun text => mapResult f (read text) := by
  intro text left b ok
  obtain ⟨a, read, rfl⟩ := mapResult_eq_ok_iff.mp ok
  have remains := keeps read
  exact remains.imp fun _ read => mapResult_eq_ok_iff.mpr ⟨a, read, rfl⟩

theorem keeps_string (depth : Nat) : Keeps (Decoder.string depth) := by
  intro text left s ok
  obtain ⟨inner, begins, read⟩ := Decoder.string_eq_ok_iff.mp ok
  obtain ⟨inner, rfl, shorter, begins⟩ := skipSpace_eq_of_mended (by decide) begins
  have remains := keeps_readString read
  exact remains.within (Nat.le_of_lt shorter) fun _ read =>
    Decoder.string_eq_ok_iff.mpr ⟨inner, begins, read⟩

theorem keeps_single (depth : Nat) : Keeps (Decoder.single depth) := by
  intro text left x ok
  obtain ⟨n, reads, rfl⟩ := Decoder.single_eq_ok_iff.mp ok
  rw [skipSpace_mended] at reads
  have atMost := length_skipSpace_le text
  have remains := readsNumber_of_mended reads
  exact remains.within atMost fun _ reads => Decoder.single_eq_ok_iff.mpr ⟨n, reads, rfl⟩

theorem keeps_nullable {d : Decoder α} {depth : Nat} (keeps : Keeps (d depth)) :
    Keeps (Decoder.nullable d depth) := by
  intro text left a? ok
  rcases Decoder.nullable_eq_ok_iff.mp ok with ⟨inner, begins, read, rfl⟩ | ⟨noNull, a, read, rfl⟩
  · obtain ⟨inner, rfl, shorter, begins⟩ := skipSpace_eq_of_mended (by decide) begins
    obtain ⟨rest, left, fewer, read⟩ := readLiteral_of_mended (by simp) read
    exact ⟨rest, left, by omega,
      Decoder.nullable_eq_ok_iff.mpr (.inl ⟨inner, begins, read, rfl⟩)⟩
  · rw [skipSpace_mended] at read
    have atMost := length_skipSpace_le text
    have remains := keeps read
    exact remains.within atMost fun _ read =>
      Decoder.nullable_eq_ok_iff.mpr (.inr ⟨skipSpace_ne_of_mended noNull, a, read, rfl⟩)

theorem keeps_list {d : Decoder α} (keeps : ∀ depth, Keeps (d depth)) (depth : Nat) :
    Keeps (Decoder.list d depth) := by
  intro text left as ok
  obtain ⟨below, inner, rfl, begins, read⟩ := Decoder.list_eq_ok_iff.mp ok
  obtain ⟨inner, rfl, shorter, begins⟩ := skipSpace_eq_of_mended (by decide) begins
  have remains := keeps_readList (keeps below) read
  exact remains.within (Nat.le_of_lt shorter) fun _ read =>
    Decoder.list_eq_ok_iff.mpr ⟨below, inner, rfl, begins, read⟩

/-! ## Records -/

namespace Record

theorem goesOn_of_mended {text : List Symbol} (goesOn : GoesOn (symbols (mended text))) :
    GoesOn text := by
  obtain ⟨some, noBracket⟩ := goesOn
  refine ⟨mt mended_eq_nil_iff.mpr some, ?_⟩
  rintro left rfl
  exact noBracket _ rfl

theorem nextElement_of_mended {first : Bool} {text element : List Symbol}
    (next : nextElement first (symbols (mended text)) = .ok (some element)) :
    ∃ here, element = symbols (mended here) ∧ here.length ≤ text.length ∧
      nextElement first text = .ok (some here) := by
  obtain ⟨goesOn, ⟨isFirst, rfl⟩ | ⟨further, behind, comma, rfl⟩⟩ :=
    nextElement_eq_some_iff.mp next
  · rw [skipSpace_mended] at goesOn
    exact ⟨skipSpace text, skipSpace_mended text, length_skipSpace_le text,
      nextElement_eq_some_iff.mpr ⟨goesOn_of_mended goesOn, .inl ⟨isFirst, rfl⟩⟩⟩
  · obtain ⟨behind, rfl, shorter, comma⟩ := skipSpace_eq_of_mended (by decide) comma
    rw [skipSpace_mended] at goesOn
    have atMost := length_skipSpace_le behind
    exact ⟨skipSpace behind, skipSpace_mended behind, by omega, nextElement_eq_some_iff.mpr
      ⟨goesOn_of_mended goesOn, .inr ⟨further, behind, comma, rfl⟩⟩⟩

variable {r : Record σ α} (keeps : ∀ f ∈ r.fields, ∀ depth gathered, Keeps (f.read depth gathered))

include keeps

theorem keeps_readMember (depth : Nat) (gathered : σ) (name : String) :
    Keeps (r.readMember depth gathered name) := by
  intro text left all ok
  obtain ⟨behind, colon, member⟩ := readMember_eq_ok_iff.mp ok
  obtain ⟨behind, rfl, shorter, colon⟩ := keepsPassing_readColon colon
  rcases member with ⟨f, field, unset, read⟩ | ⟨field, skipped, rfl⟩
  · have inFields : f ∈ r.fields := List.mem_of_find?_eq_some field
    have remains := keeps f inFields depth gathered read
    exact remains.within (Nat.le_of_lt shorter) fun _ read =>
      readMember_eq_ok_iff.mpr ⟨behind, colon, .inl ⟨f, field, unset, read⟩⟩
  · have remains := keepsPassing_skipValue skipped
    exact remains.within (Nat.le_of_lt shorter) fun _ skipped =>
      readMember_eq_ok_iff.mpr ⟨behind, colon, .inr ⟨field, skipped, rfl⟩⟩

theorem readFields_of_mended {depth index : Nat} {first : Bool} {fs : List (Field σ)}
    (known : ∀ f ∈ fs, f ∈ r.fields) {gathered all : σ} {text left : List Symbol}
    (ok : r.readFields depth fs index first gathered (symbols (mended text)) = .ok (all, left)) :
    Remains text left fun rest =>
      r.readFields depth fs index first gathered text = .ok (all, rest) := by
  induction fs generalizing index first gathered text with
  | nil =>
    obtain ⟨ends, rfl⟩ := readFields_nil_eq_ok_iff.mp ok
    have remains := skipSpace_eq_of_mended (by decide) ends
    exact remains.imp fun _ ends => readFields_nil_eq_ok_iff.mpr ⟨ends, rfl⟩
  | cons f fs ih =>
    obtain ⟨here, others⟩ := List.forall_mem_cons.mp known
    rcases readFields_cons_eq_ok_iff.mp ok with
      ⟨element, more, behind, next, read, behindElement⟩ | ⟨ended, mayEnd, behindElement⟩
    · obtain ⟨element, rfl, atMost, next⟩ := nextElement_of_mended next
      obtain ⟨behind, rfl, shorter, read⟩ := keeps f here depth gathered read
      obtain ⟨rest, left, fewer, behindElement⟩ := ih others behindElement
      exact ⟨rest, left, by omega, readFields_cons_eq_ok_iff.mpr
        (.inl ⟨element, more, behind, next, read, behindElement⟩)⟩
    · obtain ⟨closed, ends⟩ := nextElement_eq_none_iff.mp ended
      obtain ⟨closed, -, -, ends⟩ := skipSpace_eq_of_mended (by decide) ends
      have remains := ih others behindElement
      exact remains.imp fun _ behindElement => readFields_cons_eq_ok_iff.mpr
        (.inr ⟨nextElement_eq_none_iff.mpr ⟨closed, ends⟩, mayEnd, behindElement⟩)

theorem keeps_record (depth : Nat) : Keeps (r.decoder depth) := by
  intro text left a ok
  obtain ⟨below, gathered, inner, rfl, finished, ⟨begins, read⟩ | ⟨begins, read⟩⟩ :=
    decoder_eq_ok_iff.mp ok
  · obtain ⟨inner, rfl, shorter, begins⟩ := skipSpace_eq_of_mended (by decide) begins
    have remains := readFields_of_mended keeps (fun _ member => member) read
    exact remains.within (Nat.le_of_lt shorter) fun _ read => decoder_eq_ok_iff.mpr
      ⟨below, gathered, inner, rfl, finished, .inl ⟨begins, read⟩⟩
  · obtain ⟨inner, rfl, shorter, begins⟩ := skipSpace_eq_of_mended (by decide) begins
    have remains := keeps_readObject (keeps_readMember keeps below) r.start read
    exact remains.within (Nat.le_of_lt shorter) fun _ read => decoder_eq_ok_iff.mpr
      ⟨below, gathered, inner, rfl, finished, .inr ⟨begins, read⟩⟩

end Record

/-! ## Documents -/

/-- A document is read exactly if it lays out a tree that has the value. -/
theorem readDocument_eq_ok_iff_isLayout {read : List Symbol → Outcome β} {value : Tree → Option β}
    (reads : Reads Lays read value) (sound : Sound Lays read value) (keeps : Keeps read)
    {text : List Symbol} {b : β} :
    readDocument read text = .ok b ↔ ∃ tree, IsLayout text tree ∧ value tree = some b := by
  constructor
  · exact isLayout_of_readDocument sound
  · rintro ⟨tree, ⟨before, here, after, same, front, lays, back⟩, found⟩
    have ok := readDocument_of_reads reads front lays back found
    rw [← same] at ok
    obtain ⟨left, read, ends⟩ := readDocument_eq_ok_iff.mp ok
    obtain ⟨rest, rfl, -, read⟩ := keeps read
    rw [skipSpace_mended] at ends
    exact readDocument_eq_ok_iff.mpr ⟨rest, read, mended_eq_nil_iff.mp ends⟩

end CitedAnswers.Json
