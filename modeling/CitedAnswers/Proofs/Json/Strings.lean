import CitedAnswers.Json.Reader
import CitedAnswers.Proofs.Json.Grammar

/-! # Strings and their spellings

A string that is spelled in any way is read as the text of its pieces, and is refused if they are no
text (`readString_of_spells`).  A reader that passes over a string passes over every spelling
(`skipString_of_spells`).
-/

namespace CitedAnswers.Json

open CitedAnswers.Text (Symbol symbols sound?)

/-! ## Symbols -/

@[simp] theorem symbols_nil : symbols [] = [] := rfl

@[simp] theorem symbols_cons (c : Char) (cs : List Char) :
    symbols (c :: cs) = .char c :: symbols cs := rfl

@[simp] theorem symbols_append (cs ds : List Char) :
    symbols (cs ++ ds) = symbols cs ++ symbols ds := List.map_append

@[simp] theorem sound?_symbols (cs : List Char) : sound? (symbols cs) = some cs := by
  induction cs with
  | nil => rfl
  | cons c cs ih => simp [sound?, ih]

/-! ## Outcomes -/

/-- A reading came to what was to be found and left `rest`, or it failed and there was nothing to be
found. -/
def Came {α : Type} (outcome : Outcome α) (wanted : Option α) (rest : List Symbol) : Prop :=
  (∃ a, wanted = some a ∧ outcome = .ok (a, rest)) ∨ (wanted = none ∧ ∃ e, outcome = .error e)

theorem came_ok {α : Type} (a : α) (rest : List Symbol) : Came (.ok (a, rest)) (some a) rest :=
  .inl ⟨a, rfl, rfl⟩

theorem came_error {α : Type} (e : Failure) (rest : List Symbol) :
    Came (.error e : Outcome α) none rest :=
  .inr ⟨rfl, e, rfl⟩

theorem came_of_eq {α : Type} {outcome same : Outcome α} {wanted : Option α} {rest : List Symbol}
    (eq : outcome = same) (came : Came same wanted rest) : Came outcome wanted rest :=
  eq ▸ came

theorem Came.mapResult {α β : Type} {outcome : Outcome α} {wanted : Option α} {rest : List Symbol}
    (came : Came outcome wanted rest) (f : α → β) :
    Came (Json.mapResult f outcome) (wanted.map f) rest := by
  rcases came with ⟨a, rfl, rfl⟩ | ⟨rfl, e, rfl⟩
  · exact came_ok (f a) rest
  · exact came_error e rest

/-! ## Escapes -/

theorem shortEscape?_of_mem {letter c : Char} (stands : (letter, c) ∈ shortEscapes) :
    letter ≠ 'u' ∧ shortEscape? letter = some c := by
  simp only [shortEscapes, List.mem_cons, Prod.mk.injEq, List.not_mem_nil, or_false] at stands
  rcases stands with ⟨rfl, rfl⟩ | ⟨rfl, rfl⟩ | ⟨rfl, rfl⟩ | ⟨rfl, rfl⟩ | ⟨rfl, rfl⟩ | ⟨rfl, rfl⟩ |
    ⟨rfl, rfl⟩ | ⟨rfl, rfl⟩ <;> exact ⟨by decide, rfl⟩

theorem hexDigit?_of_isHex {c : Char} {d : Nat} (hex : IsHex c d) : hexDigit? c = some d := by
  have table : ∀ d < 16, hexDigit? (Nat.digitChar d) = some d ∧
      hexDigit? (Nat.digitChar d).toUpper = some d := by decide
  obtain ⟨small, rfl | rfl⟩ := hex
  · exact (table d small).1
  · exact (table d small).2

section Reading

variable {text : List Char} {pieces : List Piece} {seen left : List Symbol}

theorem stringFrom_word {digits : List Char} {unit : Nat} (word : IsWord digits unit)
    (leading : Option Nat) :
    stringFrom (.hex 4 0 leading) seen (symbols digits ++ left) =
      match escaped unit leading with
      | .char c => stringFrom .plain (.char c :: seen) left
      | .leading high => stringFrom (.pair high) seen left
      | .lone => failAt .loneSurrogate left := by
  cases word with
  | @digits _ _ _ _ i j k l first second third fourth =>
    cases escape : escaped (((i * 16 + j) * 16 + k) * 16 + l) leading <;>
      simp [stringFrom, hexDigit?_of_isHex first, hexDigit?_of_isHex second,
        hexDigit?_of_isHex third, hexDigit?_of_isHex fourth, escape]

theorem escaped_of_ofUnit {unit : Nat} {c : Char} (ordinary : Piece.ofUnit unit = .char c) :
    escaped unit none = .char c ∧ ∀ high, escaped unit (some high) = .lone := by
  unfold Piece.ofUnit at ordinary
  split at ordinary
  · cases ordinary
  · next outside =>
    cases ordinary
    constructor
    · unfold escaped
      rw [if_neg (by omega), if_neg (by omega)]
    · intro high
      unfold escaped
      exact if_neg (by omega)

theorem Spells.half {unit : Nat} (spells : Spells text (.half unit :: pieces)) :
    ∃ digits rest, text = '\\' :: 'u' :: digits ++ rest ∧ IsWord digits unit ∧
      0xD800 ≤ unit ∧ unit ≤ 0xDFFF ∧ Spells rest pieces := by
  generalize same : Piece.half unit :: pieces = all at spells
  cases spells with
  | nil | plain | short => cases same
  | word word rest =>
    rw [List.cons.injEq, Piece.ofUnit] at same
    obtain ⟨first, rfl⟩ := same
    split at first
    · next inside =>
      cases first
      exact ⟨_, _, rfl, word, inside.1, inside.2, rest⟩
    · cases first

/-- The first character of a spelling is read in one step, and does not complete a half. -/
theorem Spells.char {c : Char} (spells : Spells text (.char c :: pieces)) :
    ∃ rest, Spells rest pieces ∧
      (∀ seen left, stringFrom .plain seen (symbols text ++ left) =
        stringFrom .plain (.char c :: seen) (symbols rest ++ left)) ∧
      ∀ high seen left, ∃ e, stringFrom (.pair high) seen (symbols text ++ left) = .error e := by
  generalize same : Piece.char c :: pieces = all at spells
  cases spells with
  | nil => cases same
  | plain free rest =>
    cases same
    obtain ⟨noQuote, noBackslash, noControl⟩ := free
    refine ⟨_, rest, ?_, ?_⟩
    · intro seen left
      simp [stringFrom, noQuote, noBackslash, isControl, Nat.not_lt.mpr noControl]
    · intro high seen left
      simp [stringFrom, noBackslash, failPast]
  | @short letter _ others _ stands rest =>
    cases same
    obtain ⟨noU, escape⟩ := shortEscape?_of_mem stands
    refine ⟨_, rest, ?_, ?_⟩
    · intro seen left
      simp [stringFrom, escape]
    · intro high seen left
      simp [stringFrom, noU, failPast]
  | @word digits others unit _ word rest =>
    rw [List.cons.injEq] at same
    obtain ⟨first, rfl⟩ := same
    obtain ⟨alone, behindHalf⟩ := escaped_of_ofUnit first.symm
    refine ⟨_, rest, ?_, ?_⟩
    · intro seen left
      simp [stringFrom, stringFrom_word word, alone]
    · intro high seen left
      simp [stringFrom, stringFrom_word word, behindHalf, failAt]

theorem stringFrom_half {high : Nat} {digits : List Char} (word : IsWord digits high)
    (least : 0xD800 ≤ high) (greatest : high ≤ 0xDBFF) :
    stringFrom .plain seen (symbols ('\\' :: 'u' :: digits) ++ left) =
      stringFrom (.pair high) seen left := by
  have leads : escaped high none = .leading high := by
    unfold escaped
    rw [if_neg (by omega), if_pos ⟨least, greatest⟩]
  simp [stringFrom, stringFrom_word word, leads]

theorem stringFrom_lone {low : Nat} {digits : List Char} (word : IsWord digits low)
    (least : 0xDC00 ≤ low) (greatest : low ≤ 0xDFFF) :
    ∃ e, stringFrom .plain seen (symbols ('\\' :: 'u' :: digits) ++ left) = .error e := by
  have alone : escaped low none = .lone := if_pos ⟨least, greatest⟩
  simp [stringFrom, stringFrom_word word, alone, failAt]

theorem stringFrom_joined {high low : Nat} {digits : List Char} (word : IsWord digits low)
    (least : 0xDC00 ≤ low) (greatest : low ≤ 0xDFFF) :
    stringFrom (.pair high) seen (symbols ('\\' :: 'u' :: digits) ++ left) =
      stringFrom .plain (.char (joined high low) :: seen) left := by
  have completes : escaped low (some high) = .char (joined high low) := by
    rw [joined, Nat.add_assoc, Nat.add_comm]
    exact if_pos ⟨least, greatest⟩
  simp [stringFrom, stringFrom_word word, completes]

theorem stringFrom_unjoined {high low : Nat} {digits : List Char} (word : IsWord digits low)
    (leading : low < 0xDC00) :
    ∃ e, stringFrom (.pair high) seen (symbols ('\\' :: 'u' :: digits) ++ left) = .error e := by
  have alone : escaped low (some high) = .lone := if_neg (by omega)
  simp [stringFrom, stringFrom_word word, alone, failAt]

/-! ## Reading -/

theorem stringFrom_of_spells (spells : Spells text pieces) (seen left : List Symbol) :
    Came (stringFrom .plain seen (symbols text ++ .char '"' :: left))
      ((charsOf? pieces).map fun cs => seen.reverse ++ symbols cs) left := by
  fun_induction charsOf? pieces generalizing text seen with
  | case1 =>
    cases spells
    simpa [stringFrom] using came_ok seen.reverse left
  | case2 c rest ih =>
    obtain ⟨others, spelled, step, -⟩ := spells.char
    rw [step]
    simpa [Function.comp_def] using ih spelled (.char c :: seen)
  | case3 high low rest pair ih =>
    obtain ⟨digits, others, rfl, word, least, -, spelled⟩ := spells.half
    obtain ⟨digits', others', rfl, word', -, greatest, spelled⟩ := spelled.half
    rw [symbols_append, List.append_assoc, stringFrom_half word least pair.1, symbols_append,
      List.append_assoc, stringFrom_joined word' pair.2 greatest]
    simpa [Function.comp_def] using ih spelled (.char (joined high low) :: seen)
  | case4 high low rest apart =>
    obtain ⟨digits, others, rfl, word, least, greatest, spelled⟩ := spells.half
    refine .inr ⟨rfl, ?_⟩
    rw [symbols_append, List.append_assoc]
    by_cases trailing : 0xDC00 ≤ high
    · exact stringFrom_lone word trailing greatest
    · obtain ⟨digits', others', rfl, word', -, -, -⟩ := spelled.half
      rw [stringFrom_half word least (by omega), symbols_append, List.append_assoc]
      exact stringFrom_unjoined word' (by omega)
  | case5 unit rest unfollowed =>
    obtain ⟨digits, others, rfl, word, least, greatest, spelled⟩ := spells.half
    refine .inr ⟨rfl, ?_⟩
    rw [symbols_append, List.append_assoc]
    by_cases trailing : 0xDC00 ≤ unit
    · exact stringFrom_lone word trailing greatest
    · rw [stringFrom_half word least (by omega)]
      -- What comes next is the closing quote or a character, and neither completes the half.
      match rest, spelled with
      | [], .nil => exact ⟨_, rfl⟩
      | .char c :: more, spelled =>
        obtain ⟨-, -, -, unjoined⟩ := spelled.char
        exact unjoined unit seen _
      | .half low :: more, _ => exact absurd rfl (unfollowed low more)

/-- A string is read as the text it spells, behind its opening quote. -/
theorem readString_of_spells (spells : Spells text pieces) (left : List Symbol) :
    Came (readString (symbols text ++ .char '"' :: left)) (textOf? pieces) left := by
  rcases stringFrom_of_spells spells [] left with ⟨_, found, read⟩ | ⟨missing, e, read⟩
  · obtain ⟨cs, chars, rfl⟩ := Option.map_eq_some_iff.mp found
    refine .inl ⟨String.ofList cs, by simp [textOf?, chars], ?_⟩
    simp [readString, read]
  · rw [Option.map_eq_none_iff] at missing
    exact .inr ⟨by simp [textOf?, missing], e, by simp [readString, read]⟩

/-! ## Passing over -/

theorem skipFrom_word {digits : List Char} {unit : Nat} (word : IsWord digits unit) :
    skipFrom (.hex 4) (symbols digits ++ left) = skipFrom .plain left := by
  cases word with
  | digits first second third fourth =>
    simp [skipFrom, hexDigit?_of_isHex first, hexDigit?_of_isHex second,
      hexDigit?_of_isHex third, hexDigit?_of_isHex fourth]

theorem skipString_of_spells (spells : Spells text pieces) (left : List Symbol) :
    skipString (symbols text ++ .char '"' :: left) = .ok left := by
  unfold skipString
  induction spells with
  | nil => simp [skipFrom]
  | plain free _ ih =>
    obtain ⟨noQuote, noBackslash, noControl⟩ := free
    simpa [skipFrom, noQuote, noBackslash, isControl, Nat.not_lt.mpr noControl] using ih
  | short stands _ ih =>
    obtain ⟨noU, escape⟩ := shortEscape?_of_mem stands
    simpa [skipFrom, escape, noU] using ih
  | word word _ ih => simpa [skipFrom, skipFrom_word word] using ih

end Reading

end CitedAnswers.Json
