import CitedAnswers.Proofs.Json.Loops
import CitedAnswers.Proofs.Json.Successes

/-! # Lexemes that were read

A reader of a number that succeeds has read a number that the grammar has
(`writes_of_readNumeral`), and a reader of a string has read a spelling (`spells_of_readString`).

Octets that are no text may stand in a string that is passed over, and nowhere else.  In place of
such octets a layout has a spelling that is no text (`mended`, `spells_of_skipString`).
-/

namespace CitedAnswers.Json

open CitedAnswers.Text (Symbol symbols sound?)

/-! ## Ill-formed octets -/

/-- The text of symbols, in which half a character is spelled where octets are ill-formed.  It may
stand where they may: in a string, as long as the string need not be text. -/
def mended : List Symbol → List Char
  | [] => []
  | .char c :: rest => c :: mended rest
  | .broken _ :: rest => '\uFFFD' :: '\\' :: 'u' :: 'd' :: 'c' :: '0' :: '0' :: mended rest

@[simp] theorem mended_nil : mended [] = [] := rfl

@[simp] theorem mended_char (c : Char) (rest : List Symbol) :
    mended (.char c :: rest) = c :: mended rest := rfl

@[simp] theorem mended_symbols_append (cs : List Char) (rest : List Symbol) :
    mended (symbols cs ++ rest) = cs ++ mended rest := by
  induction cs with
  | nil => rfl
  | cons c cs ih => simp [ih]

/-! ## White space -/

theorem eq_symbols_append_skipSpace (text : List Symbol) :
    ∃ gap, IsBlank gap ∧ text = symbols gap ++ skipSpace text := by
  induction text with
  | nil => exact ⟨[], isBlank_nil, rfl⟩
  | cons s text ih =>
    by_cases space : isSpace s = true
    · obtain ⟨gap, blank, same⟩ := ih
      have skipped : skipSpace (s :: text) = skipSpace text := List.dropWhile_cons_of_pos space
      cases s with
      | broken w => cases space
      | char c =>
        refine ⟨c :: gap, List.forall_mem_cons.mpr ⟨?_, blank⟩, ?_⟩
        · simp only [isSpace, Bool.or_eq_true, beq_iff_eq] at space
          rcases space with ((rfl | rfl) | rfl) | rfl <;> simp
        · rw [skipped, symbols_cons, List.cons_append, ← same]
    · exact ⟨[], isBlank_nil, (skipSpace_of_not_isSpace (by simpa using space) text).symm⟩

theorem mended_eq_append_skipSpace (text : List Symbol) :
    ∃ gap, IsBlank gap ∧ mended text = gap ++ mended (skipSpace text) := by
  obtain ⟨gap, blank, same⟩ := eq_symbols_append_skipSpace text
  refine ⟨gap, blank, ?_⟩
  conv => lhs; rw [same, mended_symbols_append]

/-! ## Numbers -/

section Numbers

variable {text rest : List Symbol}

theorem eq_figures_of_takeDigits {ds : List Nat} (cut : takeDigits text = (ds, rest)) :
    text = symbols (figures ds) ++ rest ∧ ∀ d ∈ ds, d < 10 := by
  induction text generalizing ds with
  | nil =>
    cases cut
    exact ⟨rfl, List.forall_mem_nil _⟩
  | cons s text ih =>
    unfold takeDigits at cut
    split at cut
    · next d digit =>
      obtain ⟨small, rfl⟩ := digit?_eq_some_iff.mp digit
      cases cut
      obtain ⟨same, digits⟩ := ih rfl
      refine ⟨?_, List.forall_mem_cons.mpr ⟨small, digits⟩⟩
      conv => lhs; rw [same]
      rfl
    · cases cut
      exact ⟨rfl, List.forall_mem_nil _⟩

theorem eq_figures_append (text : List Symbol) :
    text = symbols (figures (takeDigits text).1) ++ (takeDigits text).2 ∧
      ∀ d ∈ (takeDigits text).1, d < 10 :=
  eq_figures_of_takeDigits rfl

theorem eq_of_readExponent {atEnd : Fault} {negative : Bool} {ds : List Nat}
    (ok : readExponent atEnd text = .ok ((negative, ds), rest)) :
    ∃ sign, IsSign sign negative ∧ IsRun ds ∧ text = symbols (sign ++ figures ds) ++ rest := by
  obtain ⟨sign, inner, isSign, rfl, read⟩ := readExponent_eq_ok_iff.mp ok
  obtain ⟨d, behind, small, rfl, same, rfl⟩ := readFigures_eq_ok_iff.mp read
  cases same
  obtain ⟨cut, digits⟩ := eq_figures_append behind
  refine ⟨sign, isSign, ⟨List.cons_ne_nil _ _, List.forall_mem_cons.mpr ⟨small, digits⟩⟩, ?_⟩
  conv => lhs; rw [cut]
  simp [figures]

theorem writesExponent_of_readExponent {atEnd : Fault} {s : Symbol} {e : Bool × List Nat}
    (mark : isExponentMark s = true) (ok : readExponent atEnd text = .ok (e, rest)) :
    ∃ here, WritesExponent here (some e) ∧ s :: text = symbols here ++ rest := by
  obtain ⟨negative, ds⟩ := e
  obtain ⟨sign, ⟨rfl, rfl⟩ | rfl, run, rfl⟩ := eq_of_readExponent ok
  · rcases isExponentMark_iff.mp mark with rfl | rfl
    · exact ⟨_, .unsigned (.inl rfl) run, rfl⟩
    · exact ⟨_, .unsigned (.inr rfl) run, rfl⟩
  · rcases isExponentMark_iff.mp mark with rfl | rfl
    · exact ⟨_, .signed (.inl rfl) run, rfl⟩
    · exact ⟨_, .signed (.inr rfl) run, rfl⟩

theorem writes_of_readsTail {atEnd : Fault} {fraction : Option (List Nat)}
    {exponent : Option (Bool × List Nat)} (tail : ReadsTail atEnd text fraction exponent rest) :
    ∃ behindPoint behindMark, WritesFraction behindPoint fraction ∧
      WritesExponent behindMark exponent ∧ text = symbols (behindPoint ++ behindMark) ++ rest := by
  have run {d : Nat} {ds : List Nat} {inner left : List Symbol}
      (digits : takeDigits inner = (d :: ds, left)) : IsRun (d :: ds) :=
    ⟨List.cons_ne_nil _ _, (eq_figures_of_takeDigits digits).2⟩
  cases tail with
  | nothing => exact ⟨[], [], .none, .none, rfl⟩
  | exponent mark read =>
    obtain ⟨here, writes, same⟩ := writesExponent_of_readExponent mark read
    exact ⟨[], here, .none, writes, same⟩
  | fraction digits =>
    obtain ⟨rfl, -⟩ := eq_figures_of_takeDigits digits
    exact ⟨_, [], .some (run digits), .none, by simp⟩
  | both digits mark read =>
    obtain ⟨here, writes, same⟩ := writesExponent_of_readExponent mark read
    obtain ⟨rfl, -⟩ := eq_figures_of_takeDigits digits
    exact ⟨_, here, .some (run digits), writes, by simp [same]⟩

theorem writes_of_readNumeral {atEnd : Fault} {negative : Bool} {n : Numeral}
    (ok : readNumeral atEnd negative text = .ok (n, rest)) :
    ∃ here, WritesMagnitude here n ∧ n.negative = negative ∧ text = symbols here ++ rest := by
  obtain ⟨nonempty, leading, tail⟩ := readNumeral_eq_ok_iff.mp ok
  obtain ⟨fraction, exponent, rfl, reads⟩ := readTail_eq_ok_iff.mp tail
  obtain ⟨behindPoint, behindMark, point, mark, same⟩ := writes_of_readsTail reads
  obtain ⟨cut, digits⟩ := eq_figures_append text
  refine ⟨_, .parts ⟨nonempty, digits⟩ leading point mark, rfl, ?_⟩
  conv => lhs; rw [cut, same]
  simp

end Numbers

/-! ## Strings -/

section Strings

variable {text rest seen all : List Symbol}

theorem isHex_of_hexDigit? {c : Char} {d : Nat} (digit : hexDigit? c = some d) : IsHex c d := by
  unfold hexDigit? at digit
  split at digit
  · next range =>
    have least : 48 ≤ c.toNat := range.1
    have greatest : c.toNat ≤ 57 := range.2
    have value : c.toNat - 48 = d := Option.some.inj digit
    have small : c.toNat - 48 < 10 := by omega
    exact ⟨by omega, .inl (value ▸ eq_of_row (by decide) least small)⟩
  split at digit
  · next range =>
    have least : 97 ≤ c.toNat := range.1
    have greatest : c.toNat ≤ 102 := range.2
    have value : c.toNat - 97 + 10 = d := Option.some.inj digit
    have small : c.toNat - 97 < 6 := by omega
    have row : ∀ k < 6, Char.ofNat (k + 97) = Nat.digitChar (k + 10) := by decide
    exact ⟨by omega, .inl (value ▸ eq_of_row row least small)⟩
  split at digit
  · next range =>
    have least : 65 ≤ c.toNat := range.1
    have greatest : c.toNat ≤ 70 := range.2
    have value : c.toNat - 65 + 10 = d := Option.some.inj digit
    have small : c.toNat - 65 < 6 := by omega
    have row : ∀ k < 6, Char.ofNat (k + 65) = (Nat.digitChar (k + 10)).toUpper := by decide
    exact ⟨by omega, .inr (value ▸ eq_of_row row least small)⟩
  · cases digit

theorem mem_shortEscapes_of_shortEscape? {letter c : Char} (stands : shortEscape? letter = some c) :
    (letter, c) ∈ shortEscapes := by
  unfold shortEscape? at stands
  split at stands <;> cases stands <;> simp [shortEscapes]

/-- How a string goes on behind four hexadecimal digits. -/
def stringBehind (seen behind : List Symbol) : Escaped → Outcome (List Symbol)
  | .char c => stringFrom .plain (.char c :: seen) behind
  | .leading high => stringFrom (.pair high) seen behind
  | .lone => failAt .loneSurrogate behind

theorem stringFrom_hex_cases {owed value : Nat} {leading : Option Nat}
    (ok : stringFrom (.hex owed value leading) seen text = .ok (all, rest)) :
    ∃ c d behind, text = .char c :: behind ∧ IsHex c d ∧
      (if owed = 1 then stringBehind seen behind (escaped (value * 16 + d) leading)
      else stringFrom (.hex (owed - 1) (value * 16 + d) leading) seen behind) =
        .ok (all, rest) := by
  have failed (text : List Symbol) :
      (failInHex owed text : Outcome (List Symbol)) ≠ .ok (all, rest) := by
    unfold failInHex
    split <;> simp [failAt]
  cases text with
  | nil => exact absurd ok (failed [])
  | cons s behind =>
    cases s with
    | broken w => exact absurd ok (failed _)
    | char c =>
      cases digit : hexDigit? c with
      | none => simp [stringFrom, digit, failed] at ok
      | some d =>
        refine ⟨c, d, behind, rfl, isHex_of_hexDigit? digit, ?_⟩
        cases meaning : escaped (value * 16 + d) leading <;>
          simpa [stringFrom, digit, meaning, stringBehind] using ok

theorem stringFrom_word_cases {leading : Option Nat}
    (ok : stringFrom (.hex 4 0 leading) seen text = .ok (all, rest)) :
    ∃ digits unit behind, text = symbols digits ++ behind ∧ IsWord digits unit ∧
      stringBehind seen behind (escaped unit leading) = .ok (all, rest) := by
  obtain ⟨a, i, _, rfl, first, ok⟩ := stringFrom_hex_cases ok
  obtain ⟨b, j, _, rfl, second, ok⟩ := stringFrom_hex_cases ok
  obtain ⟨c, k, _, rfl, third, ok⟩ := stringFrom_hex_cases ok
  obtain ⟨d, l, behind, rfl, fourth, ok⟩ := stringFrom_hex_cases ok
  refine ⟨[a, b, c, d], _, behind, rfl, .digits first second third fourth, ?_⟩
  simpa using ok

theorem stringFrom_escape_cases (ok : stringFrom .escape seen text = .ok (all, rest)) :
    (∃ behind, text = .char 'u' :: behind ∧
        stringFrom (.hex 4 0 none) seen behind = .ok (all, rest)) ∨
      ∃ letter c behind, text = .char letter :: behind ∧ (letter, c) ∈ shortEscapes ∧
        stringFrom .plain (.char c :: seen) behind = .ok (all, rest) := by
  cases text with
  | nil => cases ok
  | cons s behind =>
    cases s with
    | broken w => cases ok
    | char letter =>
      by_cases isWord : letter = 'u'
      · subst isWord
        exact .inl ⟨behind, rfl, ok⟩
      · cases stands : shortEscape? letter with
        | none => simp [stringFrom, stands, failPast] at ok
        | some c =>
          refine .inr ⟨letter, c, behind, rfl, mem_shortEscapes_of_shortEscape? stands, ?_⟩
          simpa [stringFrom, isWord, stands] using ok

theorem stringFrom_pair_cases {high : Nat}
    (ok : stringFrom (.pair high) seen text = .ok (all, rest)) :
    ∃ behind, text = .char '\\' :: .char 'u' :: behind ∧
      stringFrom (.hex 4 0 (some high)) seen behind = .ok (all, rest) := by
  match text with
  | [] => cases ok
  | [s] =>
    by_cases backslash : s = .char '\\' <;> simp [stringFrom, backslash, failAt, failPast] at ok
  | s :: t :: behind =>
    by_cases backslash : s = .char '\\'
    · by_cases isWord : t = .char 'u'
      · subst backslash isWord
        refine ⟨behind, rfl, ?_⟩
        simpa [stringFrom] using ok
      · simp [stringFrom, backslash, isWord, failPast] at ok
    · simp [stringFrom, backslash, failPast] at ok

theorem stringFrom_plain_cases {s : Symbol} {behind : List Symbol}
    (ok : stringFrom .plain seen (s :: behind) = .ok (all, rest)) :
    (s = .char '"' ∧ all = seen.reverse ∧ behind = rest) ∨
      (s = .char '\\' ∧ stringFrom .escape seen behind = .ok (all, rest)) ∨
      (s ≠ .char '"' ∧ s ≠ .char '\\' ∧ isControl s = false ∧
        stringFrom .plain (s :: seen) behind = .ok (all, rest)) := by
  unfold stringFrom at ok
  split at ok
  · next quote =>
    cases ok
    exact .inl ⟨quote, rfl, rfl⟩
  · next noQuote =>
    split at ok
    · next backslash => exact .inr (.inl ⟨backslash, ok⟩)
    · next noBackslash =>
      split at ok
      · cases ok
      · next noControl =>
        exact .inr (.inr ⟨noQuote, noBackslash, Bool.not_eq_true _ ▸ noControl, ok⟩)

theorem free_of_not_special {c : Char} (noQuote : Symbol.char c ≠ .char '"')
    (noBackslash : Symbol.char c ≠ .char '\\') (noControl : isControl (.char c) = false) :
    c ≠ '"' ∧ c ≠ '\\' ∧ 0x20 ≤ c.toNat :=
  ⟨mt (congrArg _) noQuote, mt (congrArg _) noBackslash, by simpa [isControl] using noControl⟩

/-- What a spelling adds to what a reader has seen of a string. -/
def Adds (text rest seen all : List Symbol) : Prop :=
  ∃ spelling pieces cs, text = symbols spelling ++ .char '"' :: rest ∧ Spells spelling pieces ∧
    charsOf? pieces = some cs ∧ all = seen.reverse ++ symbols cs

theorem Adds.char {c : Char} (free : c ≠ '"' ∧ c ≠ '\\' ∧ 0x20 ≤ c.toNat)
    (adds : Adds text rest (.char c :: seen) all) : Adds (.char c :: text) rest seen all := by
  obtain ⟨spelling, pieces, cs, rfl, spells, chars, rfl⟩ := adds
  exact ⟨_, _, c :: cs, rfl, .plain free spells, by simp [charsOf?, chars], by simp⟩

theorem Adds.short {letter c : Char} (stands : (letter, c) ∈ shortEscapes)
    (adds : Adds text rest (.char c :: seen) all) :
    Adds (.char '\\' :: .char letter :: text) rest seen all := by
  obtain ⟨spelling, pieces, cs, rfl, spells, chars, rfl⟩ := adds
  exact ⟨_, _, c :: cs, rfl, .short stands spells, by simp [charsOf?, chars], by simp⟩

theorem Adds.word {digits : List Char} {unit : Nat} {c : Char} (word : IsWord digits unit)
    (ordinary : Piece.ofUnit unit = .char c) (adds : Adds text rest (.char c :: seen) all) :
    Adds (.char '\\' :: .char 'u' :: (symbols digits ++ text)) rest seen all := by
  obtain ⟨spelling, pieces, cs, rfl, spells, chars, rfl⟩ := adds
  refine ⟨_, _, c :: cs, ?_, .word word spells, ?_, by simp⟩
  · simp
  · simp [ordinary, charsOf?, chars]

theorem Adds.pair {first second : List Char} {high low : Nat} (isHigh : IsWord first high)
    (isLow : IsWord second low) (leading : 0xD800 ≤ high ∧ high ≤ 0xDBFF)
    (trailing : 0xDC00 ≤ low ∧ low ≤ 0xDFFF)
    (adds : Adds text rest (.char (joined high low) :: seen) all) :
    Adds (.char '\\' :: .char 'u' :: (symbols first ++
      .char '\\' :: .char 'u' :: (symbols second ++ text))) rest seen all := by
  have halfHigh : Piece.ofUnit high = .half high := if_pos (by omega)
  have halfLow : Piece.ofUnit low = .half low := if_pos (by omega)
  obtain ⟨spelling, pieces, cs, rfl, spells, chars, rfl⟩ := adds
  refine ⟨_, _, joined high low :: cs, ?_, .word isHigh (.word isLow spells), ?_, by simp⟩
  · simp
  · simp [halfHigh, halfLow, charsOf?, chars, leading.2, trailing.1]

theorem ofUnit_of_escaped {unit : Nat} {c : Char} (meaning : escaped unit none = .char c) :
    Piece.ofUnit unit = .char c := by
  simp only [escaped] at meaning
  split at meaning
  · cases meaning
  · next noTrailing =>
    split at meaning
    · cases meaning
    · next noLeading =>
      cases meaning
      exact if_neg (by omega)

theorem leading_of_escaped {unit high : Nat} (meaning : escaped unit none = .leading high) :
    unit = high ∧ 0xD800 ≤ unit ∧ unit ≤ 0xDBFF := by
  simp only [escaped] at meaning
  split at meaning
  · cases meaning
  · split at meaning
    · next leading =>
      cases meaning
      exact ⟨rfl, leading⟩
    · cases meaning

/-- Behind a leading half stands a trailing one. -/
theorem trailing_of_stringBehind {high low : Nat}
    (ok : stringBehind seen text (escaped low (some high)) = .ok (all, rest)) :
    (0xDC00 ≤ low ∧ low ≤ 0xDFFF) ∧
      stringFrom .plain (.char (joined high low) :: seen) text = .ok (all, rest) := by
  simp only [escaped] at ok
  split at ok
  · next trailing =>
    refine ⟨trailing, ?_⟩
    rw [joined, Nat.add_assoc, Nat.add_comm]
    exact ok
  · cases ok

theorem eq_symbols_of_sound? {cs : List Char} (sound : sound? all = some cs) :
    all = symbols cs := by
  induction all generalizing cs with
  | nil =>
    cases sound
    rfl
  | cons s all ih =>
    cases s with
    | broken w => cases sound
    | char c =>
      obtain ⟨cs', others, rfl⟩ := Option.map_eq_some_iff.mp sound
      rw [ih others]
      rfl

theorem adds_of_stringFrom {cs : List Char} (sound : sound? all = some cs)
    (ok : stringFrom .plain seen text = .ok (all, rest)) : Adds text rest seen all := by
  -- On the length of the text: an escape takes more than one symbol of it.
  induction size : text.length using Nat.strongRecOn generalizing text seen with
  | ind n ih =>
    have behind {shorter seen' : List Symbol} (less : shorter.length < text.length)
        (ok : stringFrom .plain seen' shorter = .ok (all, rest)) : Adds shorter rest seen' all :=
      ih _ (size ▸ less) ok rfl
    cases text with
    | nil => cases ok
    | cons s text =>
      obtain ⟨rfl, rfl, rfl⟩ | ⟨rfl, ok⟩ | ⟨noQuote, noBackslash, noControl, ok⟩ :=
        stringFrom_plain_cases ok
      · exact ⟨[], [], [], rfl, .nil, rfl, by simp⟩
      · obtain ⟨_, rfl, ok⟩ | ⟨letter, c, left, rfl, stands, ok⟩ := stringFrom_escape_cases ok
        · obtain ⟨first, unit, left, rfl, word, ok⟩ := stringFrom_word_cases ok
          cases meaning : escaped unit none with
          | char c =>
            rw [meaning] at ok
            exact .word word (ofUnit_of_escaped meaning) (behind (by grind) ok)
          | leading high =>
            rw [meaning] at ok
            obtain ⟨rfl, leading⟩ := leading_of_escaped meaning
            obtain ⟨_, rfl, ok⟩ := stringFrom_pair_cases ok
            obtain ⟨second, low, left, rfl, word', ok⟩ := stringFrom_word_cases ok
            obtain ⟨trailing, ok⟩ := trailing_of_stringBehind ok
            exact .pair word word' leading trailing (behind (by grind) ok)
          | lone =>
            rw [meaning] at ok
            cases ok
        · exact .short stands (behind (by grind) ok)
      · have adds := behind (Nat.lt_succ_self _) ok
        cases s with
        | broken w =>
          -- All that was seen is text.
          obtain ⟨_, _, _, -, -, -, rfl⟩ := adds
          have seenHere := eq_symbols_of_sound? sound
          have member : Symbol.broken w ∈ symbols cs := by simp [← seenHere]
          obtain ⟨c, -, same⟩ := List.mem_map.mp member
          cases same
        | char c =>
          exact .char (free_of_not_special noQuote noBackslash noControl) adds

theorem spells_of_readString {s : String} (ok : readString text = .ok (s, rest)) :
    ∃ spelling pieces, text = symbols spelling ++ .char '"' :: rest ∧ Spells spelling pieces ∧
      textOf? pieces = some s := by
  obtain ⟨all, cs, read, sound, rfl⟩ := readString_eq_ok_iff.mp ok
  obtain ⟨spelling, pieces, cs', same, spells, chars, rfl⟩ := adds_of_stringFrom sound read
  rw [List.reverse_nil, List.nil_append, sound?_symbols] at sound
  cases sound
  exact ⟨spelling, pieces, same, spells, by rw [textOf?, chars]; rfl⟩

theorem skipFrom_hex_cases {owed : Nat} (ok : skipFrom (.hex owed) text = .ok rest) :
    ∃ c d behind, text = .char c :: behind ∧ IsHex c d ∧
      (if owed = 1 then skipFrom .plain behind else skipFrom (.hex (owed - 1)) behind) =
        .ok rest := by
  have failed (text : List Symbol) :
      (failInHex owed text : Except Failure (List Symbol)) ≠ .ok rest := by
    unfold failInHex
    split <;> simp [failAt]
  cases text with
  | nil => exact absurd ok (failed [])
  | cons s behind =>
    cases s with
    | broken w => exact absurd ok (failed _)
    | char c =>
      cases digit : hexDigit? c with
      | none => simp [skipFrom, digit, failed] at ok
      | some d =>
        refine ⟨c, d, behind, rfl, isHex_of_hexDigit? digit, ?_⟩
        simpa [skipFrom, digit] using ok

theorem skipFrom_word_cases (ok : skipFrom (.hex 4) text = .ok rest) :
    ∃ digits unit behind, text = symbols digits ++ behind ∧ IsWord digits unit ∧
      skipFrom .plain behind = .ok rest := by
  obtain ⟨a, i, _, rfl, first, ok⟩ := skipFrom_hex_cases ok
  obtain ⟨b, j, _, rfl, second, ok⟩ := skipFrom_hex_cases ok
  obtain ⟨c, k, _, rfl, third, ok⟩ := skipFrom_hex_cases ok
  obtain ⟨d, l, behind, rfl, fourth, ok⟩ := skipFrom_hex_cases ok
  exact ⟨[a, b, c, d], _, behind, rfl, .digits first second third fourth, by simpa using ok⟩

theorem skipFrom_escape_cases (ok : skipFrom .escape text = .ok rest) :
    (∃ behind, text = .char 'u' :: behind ∧ skipFrom (.hex 4) behind = .ok rest) ∨
      ∃ letter c behind, text = .char letter :: behind ∧ (letter, c) ∈ shortEscapes ∧
        skipFrom .plain behind = .ok rest := by
  cases text with
  | nil => cases ok
  | cons s behind =>
    cases s with
    | broken w => cases ok
    | char letter =>
      by_cases isWord : letter = 'u'
      · subst isWord
        exact .inl ⟨behind, rfl, ok⟩
      · cases stands : shortEscape? letter with
        | none => simp [skipFrom, stands, failPast] at ok
        | some c =>
          refine .inr ⟨letter, c, behind, rfl, mem_shortEscapes_of_shortEscape? stands, ?_⟩
          simpa [skipFrom, isWord, stands] using ok

theorem skipFrom_plain_cases {s : Symbol} {behind : List Symbol}
    (ok : skipFrom .plain (s :: behind) = .ok rest) :
    (s = .char '"' ∧ behind = rest) ∨
      (s = .char '\\' ∧ skipFrom .escape behind = .ok rest) ∨
      (s ≠ .char '"' ∧ s ≠ .char '\\' ∧ isControl s = false ∧
        skipFrom .plain behind = .ok rest) := by
  unfold skipFrom at ok
  split at ok
  · next quote =>
    cases ok
    exact .inl ⟨quote, rfl⟩
  · next noQuote =>
    split at ok
    · next backslash => exact .inr (.inl ⟨backslash, ok⟩)
    · next noBackslash =>
      split at ok
      · cases ok
      · next noControl =>
        exact .inr (.inr ⟨noQuote, noBackslash, Bool.not_eq_true _ ▸ noControl, ok⟩)

/-- What stands in place of ill-formed octets is spelled in a string, like any other piece of it. -/
theorem Spells.illFormed {spelling : List Char} {pieces : List Piece}
    (spells : Spells spelling pieces) :
    Spells ('\uFFFD' :: '\\' :: 'u' :: 'd' :: 'c' :: '0' :: '0' :: spelling)
      (.char '\uFFFD' :: .ofUnit 0xDC00 :: pieces) := by
  have half : IsWord ['d', 'c', '0', '0'] 0xDC00 :=
    .digits (i := 13) (j := 12) (k := 0) (l := 0) ⟨by decide, .inl rfl⟩ ⟨by decide, .inl rfl⟩
      ⟨by decide, .inl rfl⟩ ⟨by decide, .inl rfl⟩
  have free : '\uFFFD' ≠ '"' ∧ '\uFFFD' ≠ '\\' ∧ 0x20 ≤ '\uFFFD'.toNat := by decide
  exact .plain free (.word half spells)

theorem spells_of_skipString (ok : skipString text = .ok rest) :
    ∃ spelling pieces, mended text = spelling ++ '"' :: mended rest ∧ Spells spelling pieces := by
  unfold skipString at ok
  induction size : text.length using Nat.strongRecOn generalizing text with
  | ind n ih =>
    have behind {shorter : List Symbol} (less : shorter.length < text.length)
        (ok : skipFrom .plain shorter = .ok rest) :
        ∃ spelling pieces, mended shorter = spelling ++ '"' :: mended rest ∧
          Spells spelling pieces := ih _ (size ▸ less) ok rfl
    cases text with
    | nil => cases ok
    | cons s text =>
      obtain ⟨rfl, rfl⟩ | ⟨rfl, ok⟩ | ⟨noQuote, noBackslash, noControl, ok⟩ :=
        skipFrom_plain_cases ok
      · exact ⟨[], [], rfl, .nil⟩
      · obtain ⟨_, rfl, ok⟩ | ⟨letter, c, left, rfl, stands, ok⟩ := skipFrom_escape_cases ok
        · obtain ⟨digits, unit, left, rfl, word, ok⟩ := skipFrom_word_cases ok
          obtain ⟨spelling, pieces, same, spells⟩ := behind (by grind) ok
          exact ⟨_, _, by simp [same], .word word spells⟩
        · obtain ⟨spelling, pieces, same, spells⟩ := behind (by grind) ok
          exact ⟨_, _, by simp [same], .short stands spells⟩
      · obtain ⟨spelling, pieces, same, spells⟩ := behind (Nat.lt_succ_self _) ok
        cases s with
        | broken w => exact ⟨_, _, by simp [mended, same], spells.illFormed⟩
        | char c =>
          exact ⟨_, _, by simp [same],
            .plain (free_of_not_special noQuote noBackslash noControl) spells⟩

end Strings

end CitedAnswers.Json
