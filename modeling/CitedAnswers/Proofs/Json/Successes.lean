import CitedAnswers.Json.Decoder
import CitedAnswers.Proofs.Json.Documents
import CitedAnswers.Proofs.Json.Numerals

/-! # When readers succeed

A reader succeeds on one way through its cases, and these are the ways: for each reader that can be
made up of others, what the others have to come to.
-/

namespace CitedAnswers.Json

open CitedAnswers.Text (Symbol symbols sound?)

variable {α β σ : Type} {text rest : List Symbol}

/-! ## Lexemes -/

theorem readLiteral_eq_ok_iff {tail : List Char} :
    readLiteral tail text = .ok rest ↔ text = symbols tail ++ rest := by
  induction tail generalizing text with
  | nil => simp [readLiteral]
  | cons c tail ih =>
    cases text with
    | nil => simp [readLiteral, failAt]
    | cons s text =>
      by_cases same : s = .char c
      · simp [readLiteral, same, ih]
      · simp [readLiteral, same, failPast]

theorem literal_eq_ok_iff {a b : α} {tail : List Char} :
    literal a tail text = .ok (b, rest) ↔ text = symbols tail ++ rest ∧ a = b := by
  unfold literal
  cases read : readLiteral tail text with
  | error e =>
    have other : text ≠ symbols tail ++ rest := by
      intro same
      cases read.symm.trans (readLiteral_eq_ok_iff.mpr same)
    simp [other]
  | ok left =>
    have same := readLiteral_eq_ok_iff.mp read
    simp [same, and_comm]

theorem mapResult_eq_ok_iff {f : α → β} {outcome : Outcome α} {b : β} :
    mapResult f outcome = .ok (b, rest) ↔ ∃ a, outcome = .ok (a, rest) ∧ f a = b := by
  constructor
  · exact ok_of_mapResult
  · rintro ⟨a, rfl, rfl⟩
    rfl

theorem readString_eq_ok_iff {s : String} :
    readString text = .ok (s, rest) ↔
      ∃ all cs, stringFrom .plain [] text = .ok (all, rest) ∧ sound? all = some cs ∧
        String.ofList cs = s := by
  constructor
  · intro ok
    unfold readString at ok
    split at ok
    · cases ok
    · next all left read =>
      split at ok
      · next cs sound =>
        cases ok
        exact ⟨all, cs, read, sound, rfl⟩
      · cases ok
  · rintro ⟨all, cs, read, sound, rfl⟩
    simp [readString, read, sound]

/-- A character that lies in a row of characters is found by its place in the row. -/
theorem eq_of_row {c : Char} {first size : Nat} {row : Nat → Char}
    (table : ∀ k < size, Char.ofNat (k + first) = row k) (least : first ≤ c.toNat)
    (within : c.toNat - first < size) : c = row (c.toNat - first) := by
  rw [← table _ within, Nat.sub_add_cancel least, Char.ofNat_toNat]

theorem digit?_eq_some_iff {s : Symbol} {d : Nat} :
    digit? s = some d ↔ d < 10 ∧ s = .char (Nat.digitChar d) := by
  constructor
  · intro digit
    cases s with
    | broken w => cases digit
    | char c =>
      obtain ⟨⟨least, greatest⟩, value⟩ := Option.ite_none_right_eq_some.mp digit
      have low : 48 ≤ c.toNat := least
      have high : c.toNat ≤ 57 := greatest
      have value : c.toNat - 48 = d := Option.some.inj value
      have small : c.toNat - 48 < 10 := by omega
      exact ⟨value ▸ small, congrArg Symbol.char (value ▸ eq_of_row (by decide) low small)⟩
  · rintro ⟨small, rfl⟩
    exact digit?_digitChar small

/-- The sign in front of an exponent: none, or one of the two. -/
def IsSign (sign : List Char) (negative : Bool) : Prop :=
  sign = [] ∧ negative = false ∨ sign = [if negative then '-' else '+']

/-- The digits of an exponent, behind its sign. -/
def readFigures (atEnd : Fault) (negative : Bool) (text : List Symbol) :
    Outcome (Bool × List Nat) :=
  match text with
  | [] => failAt atEnd []
  | s :: rest =>
    match digit? s with
    | none => failPast .invalidNumber (s :: rest)
    | some d => .ok ((negative, d :: (takeDigits rest).1), (takeDigits rest).2)

theorem readFigures_eq_ok_iff {atEnd : Fault} {negative : Bool} {e : Bool × List Nat} :
    readFigures atEnd negative text = .ok (e, rest) ↔
      ∃ d inner, d < 10 ∧ text = .char (Nat.digitChar d) :: inner ∧
        e = (negative, d :: (takeDigits inner).1) ∧ rest = (takeDigits inner).2 := by
  constructor
  · intro ok
    unfold readFigures at ok
    split at ok
    · cases ok
    · next s inner =>
      split at ok
      · cases ok
      · next d digit =>
        obtain ⟨small, rfl⟩ := digit?_eq_some_iff.mp digit
        cases ok
        exact ⟨d, inner, small, rfl, rfl, rfl⟩
  · rintro ⟨d, inner, small, rfl, rfl, rfl⟩
    simp [readFigures, digit?_digitChar small]

theorem readExponent_eq (atEnd : Fault) (text : List Symbol) :
    readExponent atEnd text =
      match text with
      | .char '+' :: inner => readFigures atEnd false inner
      | .char '-' :: inner => readFigures atEnd true inner
      | _ => readFigures atEnd false text := by
  cases text with
  | nil => rfl
  | cons s inner =>
    by_cases plus : s = .char '+'
    · subst plus
      cases inner <;> rfl
    by_cases minus : s = .char '-'
    · subst minus
      cases inner <;> rfl
    · cases digit : digit? s <;> simp [readExponent, readFigures, plus, minus, digit]

theorem readExponent_eq_ok_iff {atEnd : Fault} {e : Bool × List Nat} :
    readExponent atEnd text = .ok (e, rest) ↔
      ∃ sign inner, IsSign sign e.1 ∧ text = symbols sign ++ inner ∧
        readFigures atEnd e.1 inner = .ok (e, rest) := by
  rw [readExponent_eq]
  constructor
  · intro ok
    split at ok
    · next inner =>
      obtain ⟨d, inner', small, rfl, rfl, rfl⟩ := readFigures_eq_ok_iff.mp ok
      exact ⟨['+'], _, .inr rfl, rfl, ok⟩
    · next inner =>
      obtain ⟨d, inner', small, rfl, rfl, rfl⟩ := readFigures_eq_ok_iff.mp ok
      exact ⟨['-'], _, .inr rfl, rfl, ok⟩
    · obtain ⟨d, inner', small, rfl, rfl, rfl⟩ := readFigures_eq_ok_iff.mp ok
      exact ⟨[], _, .inl ⟨rfl, rfl⟩, rfl, ok⟩
  · rintro ⟨sign, inner, ⟨rfl, plain⟩ | rfl, rfl, read⟩
    · obtain ⟨d, inner', small, rfl, same, rfl⟩ := readFigures_eq_ok_iff.mp read
      have first := digit?_digitChar small
      have noPlus := ne_of_digit first (x := '+') rfl
      have noMinus := ne_of_digit first (x := '-') rfl
      rw [plain] at read
      split
      · next same => simp [noPlus] at same
      · next same => simp [noMinus] at same
      · exact read
    · cases sign : e.1 with
      | false => simpa [sign] using read
      | true => simpa [sign] using read

theorem isExponentMark_iff {s : Symbol} :
    isExponentMark s = true ↔ s = .char 'e' ∨ s = .char 'E' := by
  simp [isExponentMark]

/-- The ways to read what follows the digits before the point. -/
inductive ReadsTail (atEnd : Fault) :
    List Symbol → Option (List Nat) → Option (Bool × List Nat) → List Symbol → Prop where
  | nothing {rest : List Symbol}
      (ends : ∀ s ∈ rest.head?, s ≠ .char '.' ∧ isExponentMark s = false) :
      ReadsTail atEnd rest none none rest
  | exponent {s : Symbol} {inner rest : List Symbol} {e : Bool × List Nat}
      (mark : isExponentMark s = true) (read : readExponent atEnd inner = .ok (e, rest)) :
      ReadsTail atEnd (s :: inner) none (some e) rest
  | fraction {inner rest : List Symbol} {d : Nat} {ds : List Nat}
      (digits : takeDigits inner = (d :: ds, rest))
      (ends : ∀ s ∈ rest.head?, isExponentMark s = false) :
      ReadsTail atEnd (.char '.' :: inner) (some (d :: ds)) none rest
  | both {s : Symbol} {inner behind rest : List Symbol} {d : Nat} {ds : List Nat}
      {e : Bool × List Nat} (digits : takeDigits inner = (d :: ds, s :: behind))
      (mark : isExponentMark s = true) (read : readExponent atEnd behind = .ok (e, rest)) :
      ReadsTail atEnd (.char '.' :: inner) (some (d :: ds)) (some e) rest

theorem readTail_eq_ok_iff {atEnd : Fault} {negative : Bool} {integer : List Nat} {n : Numeral} :
    readTail atEnd negative integer text = .ok (n, rest) ↔
      ∃ fraction exponent, n = ⟨negative, integer, fraction, exponent⟩ ∧
        ReadsTail atEnd text fraction exponent rest := by
  constructor
  · intro ok
    unfold readTail at ok
    split at ok
    · next inner =>
      split at ok
      · cases ok
      · cases ok
      · next ds s left noNil digits =>
        cases ds with
        | nil => exact absurd rfl noNil
        | cons d ds =>
          split at ok
          · next mark =>
            split at ok
            · next e left' read =>
              cases ok
              exact ⟨_, _, rfl, .both digits mark read⟩
            · cases ok
          · next noMark =>
            cases ok
            exact ⟨_, _, rfl, .fraction digits (by simpa using noMark)⟩
      · next ds noNil digits =>
        cases ds with
        | nil => exact absurd rfl noNil
        | cons d ds =>
          cases ok
          exact ⟨_, _, rfl, .fraction digits (by simp)⟩
    · next s inner noPoint =>
      split at ok
      · next mark =>
        split at ok
        · next e left read =>
          cases ok
          exact ⟨_, _, rfl, .exponent mark read⟩
        · cases ok
      · next noMark =>
        cases ok
        refine ⟨_, _, rfl, .nothing ?_⟩
        rintro _ ⟨⟩
        exact ⟨noPoint, Bool.not_eq_true _ ▸ noMark⟩
    · cases ok
      exact ⟨_, _, rfl, .nothing (by simp)⟩
  · rintro ⟨fraction, exponent, rfl, tail⟩
    cases tail with
    | nothing ends =>
      cases text with
      | nil => rfl
      | cons s text =>
        obtain ⟨noPoint, noMark⟩ := ends s rfl
        simp [readTail, noMark]
    | exponent mark read =>
      rcases isExponentMark_iff.mp mark with rfl | rfl <;> simp [readTail, mark, read]
    | fraction digits ends =>
      cases rest with
      | nil => simp [readTail, digits]
      | cons s rest => simp [readTail, digits, ends s rfl]
    | both digits mark read => simp [readTail, digits, mark, read]

theorem readNumeral_eq_ok_iff {atEnd : Fault} {negative : Bool} {n : Numeral} :
    readNumeral atEnd negative text = .ok (n, rest) ↔
      (takeDigits text).1 ≠ [] ∧ ((takeDigits text).1.head? = some 0 → (takeDigits text).1 = [0]) ∧
        readTail atEnd negative (takeDigits text).1 (takeDigits text).2 = .ok (n, rest) := by
  unfold readNumeral
  cases digits : takeDigits text with
  | mk ds left =>
  rcases ds with _ | ⟨d, _ | ⟨e, ds⟩⟩
  · cases left <;> simp [failAt, failPast]
  · simp
  · cases d <;> simp [failPast]

theorem readNumber_eq_ok_iff {negative : Bool} {n : Numeric} :
    readNumber negative text = .ok (n, rest) ↔
      ∃ numeral, readNumeral .endInValue negative text = .ok (numeral, rest) ∧
        numeral.value = .ok n := by
  constructor
  · intro ok
    unfold readNumber at ok
    split at ok
    · cases ok
    · next numeral left read =>
      split at ok
      · next value =>
        cases ok
        exact ⟨numeral, read, value⟩
      · cases ok
  · rintro ⟨numeral, read, value⟩
    simp [readNumber, read, value]

theorem skipNumber_eq_ok_iff :
    skipNumber text = .ok rest ↔
      ∃ numeral, readNumeral .invalidNumber false text = .ok (numeral, rest) := by
  constructor
  · intro ok
    unfold skipNumber at ok
    split at ok
    · cases ok
    · next numeral left read =>
      cases ok
      exact ⟨numeral, read⟩
  · rintro ⟨numeral, read⟩
    simp [skipNumber, read]

/-! ## Values that are passed over -/

theorem skipName_eq_ok_iff :
    skipName text = .ok rest ↔
      ∃ spelling left, text = .char '"' :: spelling ∧ skipString spelling = .ok left ∧
        skipSpace left = .char ':' :: rest := by
  cases text with
  | nil => simp [skipName, failAt]
  | cons s spelling =>
    by_cases quote : s = .char '"'
    · cases skipped : skipString spelling with
      | error e => simp [skipName, quote, skipped]
      | ok left =>
        cases behind : skipSpace left with
        | nil => simp [skipName, quote, skipped, behind, failAt]
        | cons c value =>
          by_cases colon : c = .char ':'
          · simp [skipName, quote, skipped, behind, colon]
          · simp [skipName, quote, skipped, behind, colon, failPast]
    · simp [skipName, quote, failPast]

theorem skipItems_eq_ok_iff {item : List Symbol → Except Failure (List Symbol)} {fuel : Nat} :
    skipItems item (fuel + 1) text = .ok rest ↔
      ∃ left, item text = .ok left ∧
        (skipSpace left = .char ']' :: rest ∨
          ∃ next, skipSpace left = .char ',' :: next ∧ skipItems item fuel next = .ok rest) := by
  constructor
  · intro ok
    unfold skipItems at ok
    split at ok
    · cases ok
    · next left read =>
      refine ⟨left, read, ?_⟩
      split at ok
      · cases ok
      · next s next behind =>
        split at ok
        · next bracket =>
          cases ok
          exact .inl (bracket ▸ behind)
        · split at ok
          · next comma => exact .inr ⟨next, comma ▸ behind, ok⟩
          · cases ok
  · rintro ⟨left, read, behind | ⟨next, behind, others⟩⟩
    · simp [skipItems, read, behind]
    · simp [skipItems, read, behind, others]

theorem skipMembers_eq_ok_iff {value : List Symbol → Except Failure (List Symbol)} {fuel : Nat} :
    skipMembers value (fuel + 1) text = .ok rest ↔
      ∃ named left, skipName (skipSpace text) = .ok named ∧ value named = .ok left ∧
        (skipSpace left = .char '\x7d' :: rest ∨
          ∃ next, skipSpace left = .char ',' :: next ∧ skipMembers value fuel next = .ok rest) := by
  constructor
  · intro ok
    unfold skipMembers at ok
    split at ok
    · cases ok
    · next named name =>
      split at ok
      · cases ok
      · next left read =>
        refine ⟨named, left, name, read, ?_⟩
        split at ok
        · cases ok
        · next s next behind =>
          split at ok
          · next brace =>
            cases ok
            exact .inl (brace ▸ behind)
          · split at ok
            · next comma => exact .inr ⟨next, comma ▸ behind, ok⟩
            · cases ok
  · rintro ⟨named, left, name, read, behind | ⟨next, behind, others⟩⟩
    · simp [skipMembers, name, read, behind]
    · simp [skipMembers, name, read, behind, others]

/-- The ways to pass over a value that begins here. -/
inductive PassesOver (fuel : Nat) : List Symbol → List Symbol → Prop where
  | null {inner rest : List Symbol} (read : readLiteral ['u', 'l', 'l'] inner = .ok rest) :
      PassesOver fuel (.char 'n' :: inner) rest
  | true {inner rest : List Symbol} (read : readLiteral ['r', 'u', 'e'] inner = .ok rest) :
      PassesOver fuel (.char 't' :: inner) rest
  | false {inner rest : List Symbol} (read : readLiteral ['a', 'l', 's', 'e'] inner = .ok rest) :
      PassesOver fuel (.char 'f' :: inner) rest
  | minus {inner rest : List Symbol} (read : skipNumber inner = .ok rest) :
      PassesOver fuel (.char '-' :: inner) rest
  | digits {s : Symbol} {inner rest : List Symbol} (digit : (digit? s).isSome)
      (read : skipNumber (s :: inner) = .ok rest) : PassesOver fuel (s :: inner) rest
  | string {inner rest : List Symbol} (read : skipString inner = .ok rest) :
      PassesOver fuel (.char '"' :: inner) rest
  | noItems {inner rest : List Symbol} (ends : skipSpace inner = .char ']' :: rest) :
      PassesOver fuel (.char '[' :: inner) rest
  | items {inner rest : List Symbol} (goesOn : ∀ left, skipSpace inner ≠ .char ']' :: left)
      (read : skipItems (skipNested fuel) (skipSpace inner).length (skipSpace inner) = .ok rest) :
      PassesOver fuel (.char '[' :: inner) rest
  | noMembers {inner rest : List Symbol} (ends : skipSpace inner = .char '\x7d' :: rest) :
      PassesOver fuel (.char '\x7b' :: inner) rest
  | members {inner rest : List Symbol} (goesOn : ∀ left, skipSpace inner ≠ .char '\x7d' :: left)
      (read : skipMembers (skipNested fuel) (skipSpace inner).length (skipSpace inner) =
        .ok rest) :
      PassesOver fuel (.char '\x7b' :: inner) rest

theorem skipNested_eq_ok_iff {fuel : Nat} :
    skipNested (fuel + 1) text = .ok rest ↔ PassesOver fuel (skipSpace text) rest := by
  constructor
  · intro ok
    unfold skipNested at ok
    split at ok
    · cases ok
    · next s inner begins =>
      rw [begins]
      split at ok
      · next same => exact same ▸ .null ok
      split at ok
      · next same => exact same ▸ .true ok
      split at ok
      · next same => exact same ▸ .false ok
      split at ok
      · next same => exact same ▸ .minus ok
      split at ok
      · next digit => exact .digits digit ok
      split at ok
      · next same => exact same ▸ .string ok
      split at ok
      · next same =>
        subst same
        split at ok
        · cases ok
        · next t left inside =>
          split at ok
          · next bracket =>
            cases ok
            exact .noItems (bracket ▸ inside)
          · next other =>
            refine .items ?_ (inside ▸ ok)
            intro left' closes
            rw [inside] at closes
            exact other (List.cons.inj closes).1
      split at ok
      · next same =>
        subst same
        split at ok
        · cases ok
        · next t left inside =>
          split at ok
          · next brace =>
            cases ok
            exact .noMembers (brace ▸ inside)
          · next other =>
            refine .members ?_ (inside ▸ ok)
            intro left' closes
            rw [inside] at closes
            exact other (List.cons.inj closes).1
      · cases ok
  · intro passes
    unfold skipNested
    generalize skipSpace text = here at passes
    cases passes with
    | null read | true read | false read | minus read => simpa using read
    | string read => simpa [digit?] using read
    | @digits s inner _ digit read =>
      -- A digit is none of the characters that are asked for before it.
      have other (c : Char) (noDigit : digit? (.char c) = none) : s ≠ .char c := by
        rintro rfl
        simp [noDigit] at digit
      simpa [other 'n' rfl, other 't' rfl, other 'f' rfl, other '-' rfl, digit] using read
    | noItems ends | noMembers ends => simp [ends, digit?]
    | @items inner _ goesOn read | @members inner _ goesOn read =>
      cases inside : skipSpace inner with
      | nil => simp [inside, skipItems, skipMembers, failAt] at read
      | cons t left =>
        rw [inside] at read
        have other : ¬t = .char _ := fun same => goesOn left (same ▸ inside)
        simpa [inside, other, digit?] using read

/-! ## Lists and objects -/

theorem readItems_eq_ok_iff {item : List Symbol → Outcome α} {fuel : Nat} {as : List α} :
    readItems item (fuel + 1) text = .ok (as, rest) ↔
      ∃ a left, item text = .ok (a, left) ∧
        (skipSpace left = .char ']' :: rest ∧ as = [a] ∨
          ∃ next others, skipSpace left = .char ',' :: next ∧ skipSpace next ≠ [] ∧
            (∀ behind, skipSpace next ≠ .char ']' :: behind) ∧
            readItems item fuel (skipSpace next) = .ok (others, rest) ∧ as = a :: others) := by
  constructor
  · intro ok
    unfold readItems at ok
    split at ok
    · cases ok
    · next a left read =>
      refine ⟨a, left, read, ?_⟩
      split at ok
      · cases ok
      · next s next behind =>
        split at ok
        · next bracket =>
          cases ok
          exact .inl ⟨bracket ▸ behind, rfl⟩
        split at ok
        · next comma =>
          split at ok
          · cases ok
          · next t inner begins =>
            split at ok
            · cases ok
            · next other =>
              split at ok
              · cases ok
              · next others end_ more =>
                cases ok
                refine .inr ⟨next, others, comma ▸ behind, ?_, ?_, begins ▸ more, rfl⟩
                · simp [begins]
                · intro behind' closes
                  rw [begins] at closes
                  exact other (List.cons.inj closes).1
        · cases ok
  · rintro ⟨a, left, read, ⟨behind, rfl⟩ | ⟨next, others, behind, some, goesOn, more, rfl⟩⟩
    · simp [readItems, read, behind]
    · cases begins : skipSpace next with
      | nil => exact absurd begins some
      | cons t inner =>
        rw [begins] at more
        have other : t ≠ .char ']' := fun same => goesOn inner (same ▸ begins)
        simp [readItems, read, behind, begins, other, more]

theorem readList_eq_ok_iff {item : List Symbol → Outcome α} {as : List α} :
    readList item text = .ok (as, rest) ↔
      skipSpace text = .char ']' :: rest ∧ as = [] ∨
        (∀ left, skipSpace text ≠ .char ']' :: left) ∧
          readItems item (skipSpace text).length (skipSpace text) = .ok (as, rest) := by
  constructor
  · intro ok
    unfold readList at ok
    split at ok
    · cases ok
    · next s left inside =>
      split at ok
      · next bracket =>
        cases ok
        exact .inl ⟨bracket ▸ inside, rfl⟩
      · next other =>
        refine .inr ⟨?_, inside ▸ ok⟩
        intro left' closes
        rw [inside] at closes
        exact other (List.cons.inj closes).1
  · rintro (⟨inside, rfl⟩ | ⟨goesOn, read⟩)
    · simp [readList, inside]
    · cases inside : skipSpace text with
      | nil => simp [inside, readItems, failAt] at read
      | cons s left =>
        rw [inside] at read
        have other : s ≠ .char ']' := fun same => goesOn left (same ▸ inside)
        simpa [readList, inside, other] using read

theorem readColon_eq_ok_iff :
    readColon text = .ok rest ↔ skipSpace text = .char ':' :: rest := by
  constructor
  · intro ok
    unfold readColon at ok
    split at ok
    · cases ok
    · next s left behind =>
      split at ok
      · next colon =>
        cases ok
        exact colon ▸ behind
      · cases ok
  · intro behind
    simp [readColon, behind]

theorem readMembers_eq_ok_iff {member : σ → String → List Symbol → Outcome σ} {fuel : Nat}
    {gathered all : σ} :
    readMembers member (fuel + 1) gathered text = .ok (all, rest) ↔
      ∃ name behind more left, readString (text.drop 1) = .ok (name, behind) ∧
        member gathered name behind = .ok (more, left) ∧
        (skipSpace left = .char '\x7d' :: rest ∧ all = more ∨
          ∃ next inner, skipSpace left = .char ',' :: next ∧ skipSpace next = .char '"' :: inner ∧
            readMembers member fuel more (skipSpace next) = .ok (all, rest)) := by
  constructor
  · intro ok
    unfold readMembers at ok
    split at ok
    · cases ok
    · next name behind named =>
      split at ok
      · cases ok
      · next more left read =>
        refine ⟨name, behind, more, left, named, read, ?_⟩
        split at ok
        · cases ok
        · next s next ends =>
          split at ok
          · next brace =>
            cases ok
            exact .inl ⟨brace ▸ ends, rfl⟩
          split at ok
          · next comma =>
            split at ok
            · cases ok
            · next t inner begins =>
              split at ok
              · next quote =>
                exact .inr ⟨next, inner, comma ▸ ends, quote ▸ begins, begins ▸ ok⟩
              · split at ok <;> cases ok
          · cases ok
  · rintro ⟨name, behind, more, left, named, read, ⟨ends, rfl⟩ |
      ⟨next, inner, ends, begins, others⟩⟩
    all_goals rw [List.drop_one] at named
    · simp [readMembers, named, read, ends]
    · rw [begins] at others
      simpa [readMembers, named, read, ends, begins] using others

theorem readObject_eq_ok_iff {member : σ → String → List Symbol → Outcome σ} {start all : σ} :
    readObject member start text = .ok (all, rest) ↔
      skipSpace text = .char '\x7d' :: rest ∧ all = start ∨
        ∃ inner, skipSpace text = .char '"' :: inner ∧
          readMembers member (skipSpace text).length start (skipSpace text) = .ok (all, rest) := by
  constructor
  · intro ok
    unfold readObject at ok
    split at ok
    · cases ok
    · next s left inside =>
      split at ok
      · next brace =>
        cases ok
        exact .inl ⟨brace ▸ inside, rfl⟩
      split at ok
      · next quote => exact .inr ⟨left, quote ▸ inside, inside ▸ ok⟩
      · cases ok
  · rintro (⟨inside, rfl⟩ | ⟨inner, inside, read⟩)
    · simp [readObject, inside]
    · rw [inside] at read
      simpa [readObject, inside] using read

/-! ## Values -/

/-- A number begins here, is cut out and has this value. -/
inductive ReadsNumber : List Symbol → Numeric → List Symbol → Prop where
  | minus {inner rest : List Symbol} {n : Numeric} (read : readNumber true inner = .ok (n, rest)) :
      ReadsNumber (.char '-' :: inner) n rest
  | digits {s : Symbol} {inner rest : List Symbol} {n : Numeric} (digit : (digit? s).isSome)
      (read : readNumber false (s :: inner) = .ok (n, rest)) : ReadsNumber (s :: inner) n rest

/-- A symbol with which a number begins is no other opener of a value. -/
theorem ReadsNumber.cases {here : List Symbol} {n : Numeric} (reads : ReadsNumber here n rest) :
    (∃ inner, here = .char '-' :: inner ∧ readNumber true inner = .ok (n, rest)) ∨
      ∃ s inner, here = s :: inner ∧ (digit? s).isSome = true ∧
        (∀ c, digit? (.char c) = none → s ≠ .char c) ∧
        readNumber false (s :: inner) = .ok (n, rest) := by
  cases reads with
  | minus read => exact .inl ⟨_, rfl, read⟩
  | @digits s inner _ _ digit read =>
    refine .inr ⟨s, inner, rfl, digit, ?_, read⟩
    rintro c noDigit rfl
    simp [noDigit] at digit

/-- The ways to read a value that begins here. -/
inductive ReadsAs : (depth : Nat) → List Symbol → Json → List Symbol → Prop where
  | null {depth : Nat} {inner rest : List Symbol}
      (read : readLiteral ['u', 'l', 'l'] inner = .ok rest) :
      ReadsAs depth (.char 'n' :: inner) .null rest
  | true {depth : Nat} {inner rest : List Symbol}
      (read : readLiteral ['r', 'u', 'e'] inner = .ok rest) :
      ReadsAs depth (.char 't' :: inner) (.bool true) rest
  | false {depth : Nat} {inner rest : List Symbol}
      (read : readLiteral ['a', 'l', 's', 'e'] inner = .ok rest) :
      ReadsAs depth (.char 'f' :: inner) (.bool false) rest
  | number {depth : Nat} {here rest : List Symbol} {n : Numeric} (read : ReadsNumber here n rest) :
      ReadsAs depth here (.number n) rest
  | string {depth : Nat} {inner rest : List Symbol} {s : String}
      (read : readString inner = .ok (s, rest)) :
      ReadsAs depth (.char '"' :: inner) (.string s) rest
  | array {depth : Nat} {inner rest : List Symbol} {items : List Json}
      (read : readList (readValue depth) inner = .ok (items, rest)) :
      ReadsAs (depth + 1) (.char '[' :: inner) (.array items) rest
  | object {depth : Nat} {inner rest : List Symbol} {members : List (String × Json)}
      (read : readObject (readEntry depth) [] inner = .ok (members, rest)) :
      ReadsAs (depth + 1) (.char '\x7b' :: inner) (.object members) rest

theorem readValue_eq_ok_iff {depth : Nat} {v : Json} :
    readValue depth text = .ok (v, rest) ↔ ReadsAs depth (skipSpace text) v rest := by
  constructor
  · intro ok
    unfold readValue at ok
    split at ok
    · cases ok
    · next s inner begins =>
      rw [begins]
      split at ok
      · next same =>
        obtain ⟨ends, rfl⟩ := literal_eq_ok_iff.mp ok
        exact same ▸ .null (readLiteral_eq_ok_iff.mpr ends)
      split at ok
      · next same =>
        obtain ⟨ends, rfl⟩ := literal_eq_ok_iff.mp ok
        exact same ▸ .true (readLiteral_eq_ok_iff.mpr ends)
      split at ok
      · next same =>
        obtain ⟨ends, rfl⟩ := literal_eq_ok_iff.mp ok
        exact same ▸ .false (readLiteral_eq_ok_iff.mpr ends)
      split at ok
      · next same =>
        obtain ⟨n, read, rfl⟩ := ok_of_mapResult ok
        exact same ▸ .number (.minus read)
      split at ok
      · next digit =>
        obtain ⟨n, read, rfl⟩ := ok_of_mapResult ok
        exact .number (.digits digit read)
      split at ok
      · next same =>
        obtain ⟨s, read, rfl⟩ := ok_of_mapResult ok
        exact same ▸ .string read
      split at ok
      · next same =>
        cases depth with
        | zero => cases ok
        | succ depth =>
          obtain ⟨items, read, rfl⟩ := ok_of_mapResult ok
          exact same ▸ .array read
      split at ok
      · next same =>
        cases depth with
        | zero => cases ok
        | succ depth =>
          obtain ⟨members, read, rfl⟩ := ok_of_mapResult ok
          exact same ▸ .object read
      · cases ok
  · intro reads
    unfold readValue
    generalize skipSpace text = here at reads
    cases reads with
    | null read | true read | false read => simp [literal, read]
    | number number =>
      rcases number.cases with ⟨inner, rfl, read⟩ | ⟨s, inner, rfl, digit, other, read⟩
      · simp [read, mapResult]
      · simp [other 'n' rfl, other 't' rfl, other 'f' rfl, other '-' rfl, digit, read, mapResult]
    | string read => simp [digit?, read, mapResult]
    | array read => simp [digit?, read, mapResult]
    | object read =>
      simp only [digit?]
      exact mapResult_eq_ok_iff.mpr ⟨_, read, rfl⟩

theorem readEntry_eq_ok_iff {depth : Nat} {members all : List (String × Json)} {name : String} :
    readEntry depth members name text = .ok (all, rest) ↔
      ∃ left v, readColon text = .ok left ∧ readValue depth left = .ok (v, rest) ∧
        insertMember name v members = all := by
  unfold readEntry
  constructor
  · intro ok
    split at ok
    · cases ok
    · next left colon =>
      obtain ⟨v, read, same⟩ := ok_of_mapResult ok
      exact ⟨left, v, colon, read, same⟩
  · rintro ⟨left, v, colon, read, rfl⟩
    simp [colon, read, mapResult]

/-! ## Shapes -/

namespace Decoder

theorem string_eq_ok_iff {depth : Nat} {s : String} :
    string depth text = .ok (s, rest) ↔
      ∃ inner, skipSpace text = .char '"' :: inner ∧ readString inner = .ok (s, rest) := by
  constructor
  · intro ok
    unfold string at ok
    split at ok
    · cases ok
    · next c inner begins =>
      split at ok
      · next quote => exact ⟨inner, quote ▸ begins, ok⟩
      · obtain ⟨e, refused⟩ := refuse_error .string (c :: inner)
        cases refused.symm.trans ok
  · rintro ⟨inner, begins, read⟩
    simp [string, begins, read]

theorem single_eq_ok_iff {depth : Nat} {x : Number.Binary32} :
    single depth text = .ok (x, rest) ↔
      ∃ n, ReadsNumber (skipSpace text) n rest ∧ toSingle n = x := by
  constructor
  · intro ok
    unfold single at ok
    split at ok
    · cases ok
    · next s inner begins =>
      rw [begins]
      split at ok
      · next same =>
        obtain ⟨n, read, rfl⟩ := ok_of_mapResult ok
        exact ⟨n, same ▸ .minus read, rfl⟩
      split at ok
      · next digit =>
        obtain ⟨n, read, rfl⟩ := ok_of_mapResult ok
        exact ⟨n, .digits digit read, rfl⟩
      · obtain ⟨e, refused⟩ := refuse_error .single (s :: inner)
        cases refused.symm.trans ok
  · rintro ⟨n, reads, rfl⟩
    unfold single
    rcases reads.cases with ⟨inner, begins, read⟩ | ⟨s, inner, begins, digit, other, read⟩
    · simp [begins, read, mapResult]
    · simp [begins, other '-' rfl, digit, read, mapResult]

theorem nullable_eq_ok_iff {d : Decoder α} {depth : Nat} {a? : Option α} :
    nullable d depth text = .ok (a?, rest) ↔
      (∃ inner, skipSpace text = .char 'n' :: inner ∧
          readLiteral ['u', 'l', 'l'] inner = .ok rest ∧ none = a?) ∨
        (∀ inner, skipSpace text ≠ .char 'n' :: inner) ∧
          ∃ a, d depth (skipSpace text) = .ok (a, rest) ∧ some a = a? := by
  unfold nullable
  cases begins : skipSpace text with
  | nil => simp [mapResult_eq_ok_iff]
  | cons s inner =>
    by_cases same : s = .char 'n'
    · simp [same, literal_eq_ok_iff, readLiteral_eq_ok_iff]
    · simp [same, mapResult_eq_ok_iff]

theorem list_eq_ok_iff {d : Decoder α} {depth : Nat} {as : List α} :
    list d depth text = .ok (as, rest) ↔
      ∃ below inner, depth = below + 1 ∧ skipSpace text = .char '[' :: inner ∧
        readList (d below) inner = .ok (as, rest) := by
  constructor
  · intro ok
    unfold list at ok
    split at ok
    · cases ok
    · next s inner begins =>
      split at ok
      · next bracket =>
        cases depth with
        | zero => cases ok
        | succ below => exact ⟨below, inner, rfl, bracket ▸ begins, ok⟩
      · obtain ⟨e, refused⟩ := refuse_error .sequence (s :: inner)
        cases refused.symm.trans ok
  · rintro ⟨below, inner, rfl, begins, read⟩
    simp [list, begins, read]

end Decoder

/-! ## Records -/

namespace Record

variable {r : Record σ α}

theorem readMember_eq_ok_iff {depth : Nat} {gathered all : σ} {name : String} :
    r.readMember depth gathered name text = .ok (all, rest) ↔
      ∃ left, readColon text = .ok left ∧
        ((∃ f, r.field? name = some f ∧ f.isSet gathered = false ∧
            f.read depth gathered left = .ok (all, rest)) ∨
          r.field? name = none ∧ skipValue left = .ok rest ∧ gathered = all) := by
  unfold readMember
  cases field : r.field? name with
  | none =>
    cases readColon text with
    | error e => simp
    | ok left =>
      cases skipped : skipValue left with
      | error e => simp [skipped]
      | ok behind => simp [skipped, and_comm]
  | some f =>
    by_cases set : f.isSet gathered = true
    · simp [set, failAt]
    · cases readColon text with
      | error e => simp [set]
      | ok left => simp [set]

theorem readEnd_eq_ok_iff : readEnd text = .ok rest ↔ skipSpace text = .char ']' :: rest := by
  constructor
  · intro ok
    unfold readEnd at ok
    split at ok
    · cases ok
    · next s left behind =>
      split at ok
      · next bracket =>
        cases ok
        exact bracket ▸ behind
      split at ok
      · split at ok
        · cases ok
        · split at ok <;> cases ok
      · cases ok
  · intro behind
    simp [readEnd, behind]

theorem nextElement_eq_none_iff {first : Bool} :
    nextElement first text = .ok none ↔ ∃ left, skipSpace text = .char ']' :: left := by
  constructor
  · intro ok
    unfold nextElement at ok
    split at ok
    · cases ok
    · next s left behind =>
      split at ok
      · next bracket => exact ⟨left, bracket ▸ behind⟩
      split at ok
      · cases ok
      split at ok
      · split at ok
        · cases ok
        · split at ok <;> cases ok
      · cases ok
  · rintro ⟨left, behind⟩
    simp [nextElement, behind]

/-- A text in which an element begins: something stands in it, and it is no closing bracket. -/
def GoesOn (text : List Symbol) : Prop :=
  text ≠ [] ∧ ∀ left, text ≠ .char ']' :: left

theorem goesOn_cons_iff {s : Symbol} {left : List Symbol} :
    GoesOn (s :: left) ↔ s ≠ .char ']' := by
  simp [GoesOn]

theorem nextElement_eq_some_iff {first : Bool} {element : List Symbol} :
    nextElement first text = .ok (some element) ↔
      GoesOn element ∧
        (first = true ∧ skipSpace text = element ∨
          first = false ∧ ∃ next, skipSpace text = .char ',' :: next ∧
            skipSpace next = element) := by
  constructor
  · intro ok
    unfold nextElement at ok
    split at ok
    · cases ok
    · next s left behind =>
      split at ok
      · cases ok
      · next other =>
        split at ok
        · next isFirst =>
          cases ok
          exact ⟨goesOn_cons_iff.mpr other, .inl ⟨isFirst, behind⟩⟩
        · next notFirst =>
          split at ok
          · next comma =>
            split at ok
            · cases ok
            · next t inner begins =>
              split at ok
              · cases ok
              · next other =>
                cases ok
                exact ⟨goesOn_cons_iff.mpr other,
                  .inr ⟨Bool.not_eq_true _ ▸ notFirst, left, comma ▸ behind, begins⟩⟩
          · cases ok
  · rintro ⟨goesOn, ⟨rfl, behind⟩ | ⟨rfl, next, behind, begins⟩⟩
    · cases element with
      | nil => exact absurd rfl goesOn.1
      | cons s left => simp [nextElement, behind, goesOn_cons_iff.mp goesOn]
    · cases element with
      | nil => exact absurd rfl goesOn.1
      | cons s left => simp [nextElement, behind, begins, goesOn_cons_iff.mp goesOn]

theorem readFields_nil_eq_ok_iff {depth index : Nat} {first : Bool} {gathered all : σ} :
    r.readFields depth [] index first gathered text = .ok (all, rest) ↔
      skipSpace text = .char ']' :: rest ∧ gathered = all := by
  unfold readFields
  cases ended : readEnd text with
  | error e =>
    have other : skipSpace text ≠ .char ']' :: rest := by
      intro behind
      cases ended.symm.trans (readEnd_eq_ok_iff.mpr behind)
    simp [other]
  | ok left =>
    have behind := readEnd_eq_ok_iff.mp ended
    simp [behind, and_comm]

theorem readFields_cons_eq_ok_iff {f : Field σ} {fs : List (Field σ)} {depth index : Nat}
    {first : Bool} {gathered all : σ} :
    r.readFields depth (f :: fs) index first gathered text = .ok (all, rest) ↔
      (∃ element more left, nextElement first text = .ok (some element) ∧
          f.read depth gathered element = .ok (more, left) ∧
          r.readFields depth fs (index + 1) false more left = .ok (all, rest)) ∨
        nextElement first text = .ok none ∧ f.mayEnd = true ∧
          r.readFields depth fs (index + 1) first gathered text = .ok (all, rest) := by
  constructor
  · intro ok
    unfold readFields at ok
    split at ok
    · cases ok
    · next element here =>
      split at ok
      · cases ok
      · next more left read => exact .inl ⟨element, more, left, here, read, ok⟩
    · next ends =>
      split at ok
      · next mayEnd => exact .inr ⟨ends, mayEnd, ok⟩
      · split at ok <;> cases ok
  · rintro (⟨element, more, left, here, read, others⟩ | ⟨ends, mayEnd, others⟩)
    · simp [readFields, here, read, others]
    · simp [readFields, ends, mayEnd, others]

theorem conclude_eq_ok_iff {gathered : σ} {left : List Symbol} {a : α} :
    r.conclude gathered left = .ok (a, rest) ↔ r.finish gathered = .ok a ∧ left = rest := by
  unfold conclude
  cases r.finish gathered with
  | error name => simp [failAt]
  | ok b => simp

/-- A record in one of its two forms. -/
theorem decoder_eq_ok_iff {depth : Nat} {a : α} :
    r.decoder depth text = .ok (a, rest) ↔
      ∃ below gathered inner, depth = below + 1 ∧ r.finish gathered = .ok a ∧
        (skipSpace text = .char '[' :: inner ∧
            r.readFields below r.fields 0 true r.start inner = .ok (gathered, rest) ∨
          skipSpace text = .char '\x7b' :: inner ∧
            readObject (r.readMember below) r.start inner = .ok (gathered, rest)) := by
  constructor
  · intro ok
    unfold decoder at ok
    split at ok
    · cases ok
    · next s inner begins =>
      split at ok
      · next bracket =>
        cases depth with
        | zero => cases ok
        | succ below =>
          dsimp only at ok
          split at ok
          · cases ok
          · next gathered left read =>
            obtain ⟨finished, rfl⟩ := conclude_eq_ok_iff.mp ok
            exact ⟨below, gathered, inner, rfl, finished, .inl ⟨bracket ▸ begins, read⟩⟩
      split at ok
      · next brace =>
        cases depth with
        | zero => cases ok
        | succ below =>
          dsimp only at ok
          split at ok
          · cases ok
          · next gathered left read =>
            obtain ⟨finished, rfl⟩ := conclude_eq_ok_iff.mp ok
            exact ⟨below, gathered, inner, rfl, finished, .inr ⟨brace ▸ begins, read⟩⟩
      · obtain ⟨e, refused⟩ := refuse_error (.record r.name) (s :: inner)
        cases refused.symm.trans ok
  · rintro ⟨below, gathered, inner, rfl, finished, ⟨begins, read⟩ | ⟨begins, read⟩⟩
    · simp [decoder, begins, read, conclude, finished]
    · simp [decoder, begins, read, conclude, finished]

end Record

/-! ## Documents -/

theorem readDocument_eq_ok_iff {read : List Symbol → Outcome α} {a : α} :
    readDocument read text = .ok a ↔ ∃ rest, read text = .ok (a, rest) ∧ skipSpace rest = [] := by
  constructor
  · intro ok
    unfold readDocument at ok
    split at ok
    · cases ok
    · next b rest whole =>
      split at ok
      · next ends =>
        cases ok
        exact ⟨rest, whole, ends⟩
      · cases ok
  · rintro ⟨rest, whole, ends⟩
    simp [readDocument, whole, ends]

end CitedAnswers.Json
