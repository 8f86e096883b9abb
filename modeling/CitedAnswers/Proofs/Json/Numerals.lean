import CitedAnswers.Proofs.Json.Strings

/-! # Numbers and their digits

A number that is written by the grammar is cut out of a text as it is written, as long as what
stands behind it could not belong to it (`Stops`).
-/

namespace CitedAnswers.Json

open CitedAnswers.Number
open CitedAnswers.Text (Symbol symbols)

/-! ## Ends of numbers -/

def EndsDigits (left : List Symbol) : Prop :=
  ∀ s ∈ left.head?, digit? s = none

/-- Whether no number goes on here. -/
def Stops (left : List Symbol) : Prop :=
  ∀ s ∈ left.head?, digit? s = none ∧ s ≠ .char '.' ∧ isExponentMark s = false

theorem stops_nil : Stops [] := by simp [Stops]

theorem stops_cons {c : Char} (other : digit? (.char c) = none ∧ c ≠ '.' ∧ c ≠ 'e' ∧ c ≠ 'E')
    (left : List Symbol) : Stops (.char c :: left) := by
  simpa [Stops, isExponentMark] using other

theorem Stops.endsDigits {left : List Symbol} (stops : Stops left) : EndsDigits left :=
  fun s first => (stops s first).1

theorem stops_blank {gap : List Char} {left : List Symbol} (blank : IsBlank gap)
    (stops : Stops left) : Stops (symbols gap ++ left) := by
  cases gap with
  | nil => exact stops
  | cons c gap =>
    apply stops_cons
    rcases blank c List.mem_cons_self with rfl | rfl | rfl | rfl <;> decide

/-! ## Digits -/

theorem digit?_digitChar {d : Nat} (small : d < 10) :
    digit? (.char (Nat.digitChar d)) = some d := by
  have table : ∀ d < 10, digit? (.char (Nat.digitChar d)) = some d := by decide
  exact table d small

theorem ne_of_digit {c x : Char} {d : Nat} (digit : digit? (.char c) = some d)
    (other : digit? (.char x) = none) : c ≠ x := by
  rintro rfl
  rw [other] at digit
  cases digit

theorem takeDigits_figures {ds : List Nat} {left : List Symbol} (digits : ∀ d ∈ ds, d < 10)
    (ends : EndsDigits left) : takeDigits (symbols (figures ds) ++ left) = (ds, left) := by
  induction ds with
  | nil =>
    cases left with
    | nil => rfl
    | cons s left => simp [figures, takeDigits, ends s (by simp)]
  | cons d ds ih =>
    have first := digit?_digitChar (digits d List.mem_cons_self)
    have others := ih fun d member => digits d (List.mem_cons_of_mem _ member)
    rw [figures] at others
    simp [figures, takeDigits, first, others]

/-! ## Numbers -/

section Reading

variable {left : List Symbol}

theorem WritesExponent.endsDigits {text : List Char} {exponent : Option (Bool × List Nat)}
    (writes : WritesExponent text exponent) (stops : Stops left) :
    EndsDigits (symbols text ++ left) := by
  cases writes with
  | none => exact stops.endsDigits
  | unsigned isMark | signed isMark =>
    rcases isMark with rfl | rfl <;> simp [EndsDigits] <;> decide

theorem WritesFraction.endsDigits {behindPoint behindMark : List Char}
    {fraction : Option (List Nat)} {exponent : Option (Bool × List Nat)}
    (point : WritesFraction behindPoint fraction) (writes : WritesExponent behindMark exponent)
    (stops : Stops left) : EndsDigits (symbols behindPoint ++ (symbols behindMark ++ left)) := by
  cases point with
  | none => exact writes.endsDigits stops
  | some run => simp [EndsDigits, digit?]

theorem readExponent_of_run {negative : Bool} {ds : List Nat} {sign : List Char} (atEnd : Fault)
    (run : IsRun ds) (stops : Stops left)
    (signed : sign = [] ∧ negative = false ∨ sign = [if negative then '-' else '+']) :
    readExponent atEnd (symbols (sign ++ figures ds) ++ left) = .ok ((negative, ds), left) := by
  obtain ⟨nonempty, digits⟩ := run
  cases ds with
  | nil => exact absurd rfl nonempty
  | cons d ds =>
    have first := digit?_digitChar (digits d List.mem_cons_self)
    have others := takeDigits_figures (fun d member => digits d (List.mem_cons_of_mem _ member))
      stops.endsDigits
    rw [figures] at others
    rcases signed with ⟨rfl, rfl⟩ | rfl
    · simp [readExponent, figures, first, others, ne_of_digit first (x := '+') rfl,
        ne_of_digit first (x := '-') rfl]
    · cases negative <;> simp [readExponent, figures, first, others]

/-- An exponent begins with its mark and is read behind it, if there is one. -/
theorem exponent_cases {text : List Char} {exponent : Option (Bool × List Nat)}
    (writes : WritesExponent text exponent) :
    (text = [] ∧ exponent = none) ∨
      ∃ mark rest e, text = mark :: rest ∧ exponent = some e ∧ (mark = 'e' ∨ mark = 'E') ∧
        ∀ atEnd left, Stops left → readExponent atEnd (symbols rest ++ left) = .ok (e, left) := by
  cases writes with
  | none => exact .inl ⟨rfl, rfl⟩
  | unsigned isMark run =>
    refine .inr ⟨_, _, _, rfl, rfl, isMark, ?_⟩
    exact fun atEnd left stops => readExponent_of_run atEnd run stops (.inl ⟨rfl, rfl⟩)
  | signed isMark run =>
    refine .inr ⟨_, _, _, rfl, rfl, isMark, ?_⟩
    exact fun atEnd left stops => readExponent_of_run atEnd run stops (.inr rfl)

theorem readTail_of_writes {fraction : Option (List Nat)} {exponent : Option (Bool × List Nat)}
    {behindPoint behindMark : List Char} (point : WritesFraction behindPoint fraction)
    (writes : WritesExponent behindMark exponent) (stops : Stops left) (atEnd : Fault)
    (negative : Bool) (integer : List Nat) :
    readTail atEnd negative integer (symbols behindPoint ++ (symbols behindMark ++ left)) =
      .ok (⟨negative, integer, fraction, exponent⟩, left) := by
  -- The digits behind a point end where the exponent begins, or else where the number does.
  rcases exponent_cases writes with ⟨rfl, rfl⟩ | ⟨mark, rest, e, rfl, rfl, isMark, read⟩
  · have ends := stops.endsDigits
    cases point with
    | none =>
      cases left with
      | nil => rfl
      | cons s left =>
        obtain ⟨-, noPoint, noMark⟩ := stops s rfl
        simp [readTail, noMark]
    | some run =>
      obtain ⟨nonempty, digits⟩ := run
      cases left with
      | nil =>
        have taken := takeDigits_figures digits ends
        rw [List.append_nil] at taken
        simp [readTail, taken]
      | cons s left =>
        obtain ⟨-, noPoint, noMark⟩ := stops s rfl
        simp [readTail, takeDigits_figures digits ends, noMark]
  · have ends := writes.endsDigits stops
    have marked : isExponentMark (.char mark) = true := by rcases isMark with rfl | rfl <;> rfl
    cases point with
    | none =>
      have noPoint : mark ≠ '.' := by rcases isMark with rfl | rfl <;> decide
      simp [readTail, noPoint, marked, read atEnd left stops]
    | some run =>
      obtain ⟨nonempty, digits⟩ := run
      rw [symbols_cons, List.cons_append] at ends
      simp [readTail, takeDigits_figures digits ends, marked, read atEnd left stops]

theorem readNumeral_of_writes {text : List Char} {n : Numeral} (writes : WritesMagnitude text n)
    (stops : Stops left) (atEnd : Fault) (negative : Bool) :
    readNumeral atEnd negative (symbols text ++ left) =
      .ok (⟨negative, n.integer, n.fraction, n.exponent⟩, left) := by
  cases writes with
  | parts run leading point mark =>
    obtain ⟨nonempty, digits⟩ := run
    have ends := point.endsDigits mark stops
    have taken := takeDigits_figures digits ends
    have tail := readTail_of_writes point mark stops atEnd negative
    unfold readNumeral
    rw [symbols_append, symbols_append, List.append_assoc, List.append_assoc, taken]
    split
    · next none => exact absurd (congrArg Prod.fst none) nonempty
    · next none => exact absurd (congrArg Prod.fst none) nonempty
    · next zero =>
      -- A zero that leads stands alone, so no digit is left behind it.
      obtain ⟨rfl, -⟩ := Prod.mk.inj zero
      cases leading rfl
    · next split =>
      cases split
      exact tail _

theorem readNumber_of_writes {text : List Char} {n : Numeral} (writes : WritesMagnitude text n)
    (stops : Stops left) :
    Came (readNumber n.negative (symbols text ++ left)) n.value.toOption left := by
  have read := readNumeral_of_writes writes stops .endInValue n.negative
  unfold readNumber
  rw [read]
  cases value : n.value with
  | ok number =>
    simp only [value]
    exact came_ok number left
  | error e =>
    simp only [value]
    exact came_error _ left

theorem skipNumber_of_writes {text : List Char} {n : Numeral} (writes : WritesMagnitude text n)
    (stops : Stops left) : skipNumber (symbols text ++ left) = .ok left := by
  rw [skipNumber, readNumeral_of_writes writes stops]

theorem digit_of_writes {text : List Char} {n : Numeral} (writes : WritesMagnitude text n) :
    ∃ d rest, d < 10 ∧ text = Nat.digitChar d :: rest := by
  cases writes with
  | parts run =>
    obtain ⟨nonempty, digits⟩ := run
    obtain ⟨d, ds, rfl⟩ := List.exists_cons_of_ne_nil nonempty
    exact ⟨d, _, digits d List.mem_cons_self, rfl⟩

end Reading

end CitedAnswers.Json
