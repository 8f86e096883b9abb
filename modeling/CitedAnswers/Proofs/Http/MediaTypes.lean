import CitedAnswers.Http.MediaType
import Mathlib

/-! # Which texts announce JSON

A media type is read in pieces: the type up to the slash, the subtype up to the parameters, and of
the subtype only what stands before its last plus sign.  `AnnouncesJson` says from which texts the
reader comes to type `application` and subtype `json`, and `announcesJson_iff` that it is from these
and no others.  A text with a suffix, such as `application/json+xml`, is among them.
-/

namespace CitedAnswers.Http

/-! ## Suffixes -/

/-- The end of a subtype that is no part of it: nothing, or the last plus sign and a name. -/
inductive IsSuffix : List Char → Prop
  | none : IsSuffix []
  | plus {name : List Char} (tokens : ∀ c ∈ name, isTokenChar c = true) (last : '+' ∉ name) :
      IsSuffix ('+' :: name)

theorem takeWhile_eq_self_of_not_mem {cs : List Char} (plain : '+' ∉ cs) :
    cs.takeWhile (· ≠ '+') = cs := by
  rw [List.takeWhile_eq_self_iff]
  intro d member
  have other : d ≠ '+' := fun same => plain (same ▸ member)
  exact decide_eq_true other

theorem withoutSuffix_of_not_mem {c : Char} {rest : List Char} (plain : '+' ∉ rest) :
    withoutSuffix (c :: rest) = c :: rest := by
  have whole := takeWhile_eq_self_of_not_mem (mt List.mem_reverse.mp plain)
  simp only [withoutSuffix, whole, List.length_reverse, if_true]

theorem withoutSuffix_append_plus {c : Char} {stem name : List Char} (last : '+' ∉ name) :
    withoutSuffix (c :: stem ++ '+' :: name) = c :: stem := by
  have behind := takeWhile_eq_self_of_not_mem (mt List.mem_reverse.mp last)
  -- Read from the end, the name is what comes before the first plus sign.
  have found : (stem ++ '+' :: name).reverse.takeWhile (· ≠ '+') = name.reverse := by
    rw [List.reverse_append, List.reverse_cons, List.append_assoc,
      List.takeWhile_append_of_pos (List.takeWhile_eq_self_iff.mp behind)]
    simp
  have longer : name.reverse.length ≠ (stem ++ '+' :: name).length := by
    simp only [List.length_reverse, List.length_append, List.length_cons]
    omega
  have count : (stem ++ '+' :: name).length - name.reverse.length - 1 = stem.length := by
    simp only [List.length_reverse, List.length_append, List.length_cons]
    omega
  rw [List.cons_append]
  simp only [withoutSuffix, found, if_neg longer, count, List.take_left']

theorem IsSuffix.tokens {suffix : List Char} (isSuffix : IsSuffix suffix) :
    ∀ c ∈ suffix, isTokenChar c = true := by
  cases isSuffix with
  | none => exact fun _ member => absurd member List.not_mem_nil
  | plus tokens _ => exact List.forall_mem_cons.mpr ⟨by decide, tokens⟩

theorem withoutSuffix_append {stem suffix : List Char} (filled : stem ≠ []) (plain : '+' ∉ stem)
    (isSuffix : IsSuffix suffix) : withoutSuffix (stem ++ suffix) = stem := by
  cases stem with
  | nil => exact absurd rfl filled
  | cons c rest =>
    cases isSuffix with
    | none =>
      rw [List.append_nil]
      exact withoutSuffix_of_not_mem fun member => plain (List.mem_cons_of_mem _ member)
    | plus _ last => exact withoutSuffix_append_plus last

/-- A subtype is what remains of it without its suffix, and its suffix. -/
theorem exists_suffix {cs : List Char} (tokens : ∀ c ∈ cs, isTokenChar c = true) :
    ∃ suffix, IsSuffix suffix ∧ cs = withoutSuffix cs ++ suffix := by
  cases cs with
  | nil => exact ⟨[], .none, rfl⟩
  | cons c rest =>
    by_cases plus : '+' ∈ rest
    · -- The last plus sign is the first one from the end.
      obtain ⟨name, stem, split, last⟩ := List.eq_append_cons_of_mem (List.mem_reverse.mpr plus)
      have parts : rest = stem.reverse ++ '+' :: name.reverse := by
        rw [← List.reverse_reverse rest, split, List.reverse_append, List.reverse_cons,
          List.append_assoc, List.singleton_append]
      subst parts
      have unmarked : '+' ∉ name.reverse := mt List.mem_reverse.mp last
      refine ⟨'+' :: name.reverse, .plus ?_ unmarked, ?_⟩
      · intro d member
        apply tokens
        exact List.mem_cons_of_mem _ (List.mem_append_right _ (List.mem_cons_of_mem _ member))
      · rw [← List.cons_append, withoutSuffix_append_plus unmarked]
    · exact ⟨[], .none, by rw [withoutSuffix_of_not_mem plus, List.append_nil]⟩

/-! ## Words in lower case -/

theorem isAlphanum_of_toLower {c : Char} (lower : c.toLower.isAlphanum = true) :
    c.isAlphanum = true := by
  by_cases capital : c.isUpper = true
  · simp [Char.isAlphanum, Char.isAlpha, capital]
  · rw [Char.toLower_eq_of_not_isUpper capital] at lower
    exact lower

/-- What is a word of letters and digits in lower case has only letters and digits itself. -/
theorem isAlphanum_of_lowered {cs : List Char} {word : String} (same : lowered cs = word)
    (letters : word.toList.all Char.isAlphanum = true) : ∀ c ∈ cs, c.isAlphanum = true := by
  intro c member
  apply isAlphanum_of_toLower
  rw [List.all_eq_true] at letters
  apply letters
  rw [← same, lowered, String.toList_ofList]
  exact List.mem_map_of_mem member

theorem isTokenChar_of_isAlphanum {c : Char} (letter : c.isAlphanum = true) :
    isTokenChar c = true := by
  rw [isTokenChar, letter, Bool.true_or]

/-! ## The texts -/

/-- What may stand behind a subtype: nothing, or a semicolon and parameters. -/
inductive IsTail : List Char → Prop
  | none : IsTail []
  | parameters {text : List Char} {ps : List Parameter}
      (read : readParameters .gap text = some ps) : IsTail (';' :: text)

/-- The texts that announce JSON. -/
inductive AnnouncesJson : List Char → Prop
  | intro {type subtype suffix tail : List Char} (isType : lowered type = "application")
      (isSubtype : lowered subtype = "json") (isSuffix : IsSuffix suffix) (isTail : IsTail tail) :
      AnnouncesJson (type ++ '/' :: (subtype ++ suffix ++ tail))

theorem takeWhile_word {word : List Char} {c : Char} (rest : List Char)
    (tokens : ∀ d ∈ word, isTokenChar d = true) (behind : isTokenChar c = false) :
    (word ++ c :: rest).takeWhile isTokenChar = word ∧
      (word ++ c :: rest).dropWhile isTokenChar = c :: rest := by
  rw [List.takeWhile_append_of_pos tokens, List.dropWhile_append_of_pos tokens]
  simp [behind]

theorem isJson_of_announcesJson {text : String} (announces : AnnouncesJson text.toList) :
    (MediaType.parse? text).any MediaType.isJson = true := by
  generalize cut : text.toList = cs at announces
  cases announces with
  | @intro type subtype suffix tail isType isSubtype isSuffix isTail =>
    have typed : type ≠ [] := by
      rintro rfl
      exact absurd isType (by decide)
    have subtyped : subtype ≠ [] := by
      rintro rfl
      exact absurd isSubtype (by decide)
    have letters := isAlphanum_of_lowered isSubtype (by decide)
    have stem : withoutSuffix (subtype ++ suffix) = subtype := by
      apply withoutSuffix_append subtyped _ isSuffix
      intro plus
      exact absurd (letters '+' plus) (by decide)
    have tokens : ∀ c ∈ subtype ++ suffix, isTokenChar c = true := by
      intro c member
      rcases List.mem_append.mp member with inSubtype | inSuffix
      · exact isTokenChar_of_isAlphanum (letters c inSubtype)
      · exact isSuffix.tokens c inSuffix
    have typeTokens : ∀ c ∈ type, isTokenChar c = true := fun c member =>
      isTokenChar_of_isAlphanum (isAlphanum_of_lowered isType (by decide) c member)
    obtain ⟨front, back⟩ :=
      takeWhile_word (c := '/') (subtype ++ suffix ++ tail) typeTokens (by decide)
    -- The reader stops behind the type and behind the subtype; then nothing or parameters follow.
    cases isTail with
    | none =>
      have taken : (subtype ++ suffix ++ []).takeWhile isTokenChar = subtype ++ suffix := by
        rw [List.append_nil, List.takeWhile_eq_self_iff]
        exact tokens
      have dropped : (subtype ++ suffix ++ []).dropWhile isTokenChar = [] := by
        rw [List.append_nil, List.dropWhile_eq_nil_iff]
        exact tokens
      simp only [MediaType.parse?, cut, front, back, taken, dropped, if_neg typed, stem, isType,
        isSubtype]
      rfl
    | @parameters more ps read =>
      obtain ⟨taken, dropped⟩ := takeWhile_word (c := ';') more tokens (by decide)
      have filled : subtype ++ suffix ≠ [] := List.append_ne_nil_of_left_ne_nil subtyped _
      simp only [MediaType.parse?, cut, front, back, taken, dropped, if_neg typed, stem, isType,
        isSubtype, read, filled, ne_eq, not_false_eq_true, and_self, if_true]
      rfl

theorem announcesJson_of_isJson {text : String}
    (json : (MediaType.parse? text).any MediaType.isJson = true) : AnnouncesJson text.toList := by
  obtain ⟨m, parsed, isJson⟩ := (Option.any_eq_true _ _).mp json
  simp only [MediaType.isJson, Bool.and_eq_true, beq_iff_eq] at isJson
  unfold MediaType.parse? at parsed
  dsimp only at parsed
  split at parsed
  · next rest slash =>
    -- What the reader took and what it left make up the text.
    have whole : text.toList = text.toList.takeWhile isTokenChar ++ '/' :: rest := by
      rw [← slash, List.takeWhile_append_dropWhile]
    split at parsed
    · cases parsed
    · obtain ⟨ps, read, rfl⟩ := Option.map_eq_some_iff.mp parsed
      obtain ⟨isType, isSubtype⟩ := isJson
      have tokens : ∀ c ∈ rest.takeWhile isTokenChar, isTokenChar c = true :=
        List.all_eq_true.mp List.all_takeWhile
      obtain ⟨suffix, isSuffix, split⟩ := exists_suffix tokens
      have isTail : IsTail (rest.dropWhile isTokenChar) := by
        generalize rest.dropWhile isTokenChar = tail at read
        cases tail with
        | nil => exact .none
        | cons c more =>
          dsimp only at read
          split at read
          · next semicolon =>
            obtain ⟨rfl, -⟩ := semicolon
            exact .parameters read
          · cases read
      rw [whole, ← List.takeWhile_append_dropWhile (p := isTokenChar) (l := rest), split]
      exact .intro isType isSubtype isSuffix isTail
  · cases parsed

/-- A media type reads as JSON exactly from the texts that announce it. -/
theorem announcesJson_iff {text : String} :
    (MediaType.parse? text).any MediaType.isJson = true ↔ AnnouncesJson text.toList :=
  ⟨announcesJson_of_isJson, isJson_of_announcesJson⟩

end CitedAnswers.Http
