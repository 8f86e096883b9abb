import CitedAnswers.Proofs.Number.Decimals
import CitedAnswers.Sources.Citation
import Mathlib.Data.List.Induction
import Mathlib.Data.List.Infix

/-! # Reading footers back

An answer may end in what looks like its sources, and a link may hold what ends titles and links.
Still an answer and its footer are told apart, and so are the citations (`append_footer_inj`), as
long as titles and links keep to one line and no title holds what ends a title.

The text is read from its end.  What is behind the last line feed is the last citation, or the
heading when none is left; what is behind its last equals sign are the seconds.  Only the title is
read from the front, up to the first thing that can end it.
-/

namespace CitedAnswers.Sources.Citation

open CitedAnswers.Number (not_mem_toDigits)

/-! ## Places to split at -/

section Splitting

variable {α : Type} {s : α} {x x' y y' m : List α}

/-- Texts that split in two parts each are split at the same place if neither first part goes
beyond the other. -/
theorem append_inj_of_eq_nil (same : x ++ y = x' ++ y')
    (left : ∀ m, x' = x ++ m → y = m ++ y' → m = [])
    (right : ∀ m, x = x' ++ m → y' = m ++ y → m = []) : x = x' ∧ y = y' := by
  rcases List.append_eq_append_iff.mp same with ⟨m, front, back⟩ | ⟨m, front, back⟩
  · obtain rfl := left m front back
    simp [front, back]
  · obtain rfl := right m front back
    simp [front, back]

theorem eq_nil_of_last (absent : s ∉ y) (same : s :: y = m ++ s :: y') : m = [] := by
  cases m with
  | nil => rfl
  | cons c m =>
    obtain ⟨-, rfl⟩ := List.cons.inj same
    simp at absent

/-- A text is split at the last place where a separator stands. -/
theorem append_last_inj (absent : s ∉ y) (absent' : s ∉ y') (same : x ++ s :: y = x' ++ s :: y') :
    x = x' ∧ y = y' := by
  obtain ⟨front, back⟩ := append_inj_of_eq_nil same (fun m _ => eq_nil_of_last absent)
    (fun m _ => eq_nil_of_last absent')
  exact ⟨front, (List.cons.inj back).2⟩

end Splitting

section Titles

variable {t t' r r' m : List Char}

theorem eq_nil_of_titleEnd (absent : ¬[']', '('] <:+: t ++ m)
    (same : ']' :: '(' :: r = m ++ ']' :: '(' :: r') : m = [] := by
  match m, same with
  | [], _ => rfl
  | [_], same => simp at same
  | _ :: _ :: rest, same =>
    simp only [List.cons_append, List.cons.injEq] at same
    obtain ⟨rfl, rfl, -⟩ := same
    exact absurd (List.infix_append t [']', '('] rest) (by simpa using absent)

/-- A text is split at the first place where a title can end. -/
theorem append_titleEnd_inj (absent : ¬[']', '('] <:+: t) (absent' : ¬[']', '('] <:+: t')
    (same : t ++ ']' :: '(' :: r = t' ++ ']' :: '(' :: r') : t = t' ∧ r = r' := by
  obtain ⟨front, back⟩ := append_inj_of_eq_nil same
    (fun m whole => eq_nil_of_titleEnd (whole ▸ absent'))
    (fun m whole => eq_nil_of_titleEnd (whole ▸ absent))
  simpa [front] using back

end Titles

/-! ## Lines -/

/-- Whether a citation can be read back from its line. -/
structure IsPlain (c : Citation) : Prop where
  titleLine : '\n' ∉ c.title.toList
  linkLine : '\n' ∉ c.link.toList
  titleEnd : ¬[']', '('] <:+: c.title.toList

instance (c : Citation) : Decidable c.IsPlain :=
  decidable_of_iff
    ('\n' ∉ c.title.toList ∧ '\n' ∉ c.link.toList ∧ ¬[']', '('] <:+: c.title.toList)
    ⟨fun ⟨titleLine, linkLine, titleEnd⟩ => ⟨titleLine, linkLine, titleEnd⟩,
      fun ⟨titleLine, linkLine, titleEnd⟩ => ⟨titleLine, linkLine, titleEnd⟩⟩

/-- The line of a citation in a footer. -/
def line (c : Citation) : List Char :=
  "- ".toList ++ c.markdown.toList

theorem line_eq (c : Citation) :
    c.line = "- [".toList ++ (c.title.toList ++ ']' :: '(' ::
      (c.link.toList ++ "&t".toList ++ '=' :: (Nat.toDigits 10 c.seconds ++ [')']))) := by
  simp [line, markdown]

theorem newline_not_mem_line {c : Citation} (plain : c.IsPlain) : '\n' ∉ c.line := by
  have digits : '\n' ∉ Nat.toDigits 10 c.seconds := not_mem_toDigits (by decide) c.seconds
  simp [line_eq, plain.titleLine, plain.linkLine, digits]

theorem line_inj {c d : Citation} (plain : c.IsPlain) (plain' : d.IsPlain)
    (same : c.line = d.line) : c = d := by
  have afterEquals : ∀ n, '=' ∉ Nat.toDigits 10 n ++ [')'] := fun n => by
    simp [not_mem_toDigits (by decide : '='.isDigit = false) n]
  -- The title is read from the front first: the link may hold what ends a title.
  rw [line_eq, line_eq, List.append_cancel_left_eq] at same
  obtain ⟨title, rest⟩ := append_titleEnd_inj plain.titleEnd plain'.titleEnd same
  obtain ⟨link, digits⟩ := append_last_inj (afterEquals _) (afterEquals _) rest
  have seconds : c.seconds = d.seconds := by
    rw [← Nat.ofDigitChars_ten_toDigits (n := c.seconds), List.append_cancel_right digits,
      Nat.ofDigitChars_ten_toDigits]
  have titles := String.toList_injective title
  have links := String.toList_injective (List.append_cancel_right link)
  cases c
  cases d
  simp only [Citation.mk.injEq]
  exact ⟨links, titles, seconds⟩

/-! ## Footers -/

def heading : List Char :=
  "\n\n**Sources:**".toList

/-- The lines of citations, each behind a line feed. -/
def lines (cs : List Citation) : List Char :=
  cs.flatMap fun c => '\n' :: c.line

@[simp]
theorem lines_nil : lines [] = [] := rfl

theorem lines_concat (cs : List Citation) (c : Citation) :
    lines (cs ++ [c]) = lines cs ++ '\n' :: c.line := by
  simp [lines]

theorem cons_intercalate_lines (c : Citation) (rest : List Citation) :
    '\n' :: ['\n'].intercalate ((c :: rest).map line) = lines (c :: rest) := by
  induction rest generalizing c with
  | nil => simp [lines]
  | cons d rest ih =>
    rw [List.map_cons, List.map_cons, List.intercalate_cons_cons, ← List.map_cons,
      List.append_assoc, List.singleton_append, ih]
    simp [lines]

theorem toList_footer {cs : List Citation} (nonempty : cs ≠ []) :
    (footer cs).toList = heading ++ lines cs := by
  obtain ⟨c, rest, rfl⟩ := List.exists_cons_of_ne_nil nonempty
  have items : ((links (c :: rest)).map fun link => "- " ++ link).map String.toList =
      (c :: rest).map line := by
    simp [links, line]
  have opening : "\n\n**Sources:**\n".toList = heading ++ ['\n'] := by decide
  have feed : "\n".toList = ['\n'] := by decide
  rw [footer, if_neg (by simp), String.toList_append, String.toList_intercalate, items, opening,
    feed, List.append_assoc, List.singleton_append, cons_intercalate_lines]

/-- The last line of a heading is not that of a citation. -/
theorem line_ne_heading (c : Citation) : c.line ≠ "**Sources:**".toList := by
  simp [line]

theorem heading_ne_lines {a a' : List Char} {cs : List Citation} {c : Citation}
    (plain : c.IsPlain) : a ++ heading ≠ a' ++ lines (cs ++ [c]) := by
  intro same
  have split : heading = ['\n'] ++ '\n' :: "**Sources:**".toList := by decide
  rw [split, lines_concat, ← List.append_assoc, ← List.append_assoc] at same
  obtain ⟨-, last⟩ := append_last_inj (by decide) (newline_not_mem_line plain) same
  exact line_ne_heading c last.symm

theorem append_lines_inj {a a' : List Char} {cs ds : List Citation}
    (plain : ∀ c ∈ cs, c.IsPlain) (plain' : ∀ d ∈ ds, d.IsPlain)
    (same : a ++ heading ++ lines cs = a' ++ heading ++ lines ds) : a = a' ∧ cs = ds := by
  -- The last citation is the last line, so the induction takes citations off at the end.
  induction cs using List.reverseRecOn generalizing ds with
  | nil =>
    rcases List.eq_nil_or_concat' ds with rfl | ⟨ds, d, rfl⟩
    · simpa using same
    · rw [lines_nil, List.append_nil] at same
      exact absurd same (heading_ne_lines (plain' d (by simp)))
  | append_singleton cs c ih =>
    rcases List.eq_nil_or_concat' ds with rfl | ⟨ds, d, rfl⟩
    · rw [lines_nil, List.append_nil] at same
      exact absurd same.symm (heading_ne_lines (plain c (by simp)))
    · rw [lines_concat, lines_concat, ← List.append_assoc, ← List.append_assoc] at same
      have hereLine := newline_not_mem_line (plain c (by simp))
      have thereLine := newline_not_mem_line (plain' d (by simp))
      obtain ⟨front, last⟩ := append_last_inj hereLine thereLine same
      obtain ⟨answers, others⟩ := ih (fun e member => plain e (by simp [member]))
        (fun e member => plain' e (by simp [member])) front
      obtain rfl := line_inj (plain c (by simp)) (plain' d (by simp)) last
      exact ⟨answers, by rw [others]⟩

/-- An answer and the citations below it are known from the text of both. -/
theorem append_footer_inj {a a' : String} {cs ds : List Citation}
    (nonempty : cs ≠ []) (nonempty' : ds ≠ [])
    (plain : ∀ c ∈ cs, c.IsPlain) (plain' : ∀ d ∈ ds, d.IsPlain) :
    a ++ footer cs = a' ++ footer ds ↔ a = a' ∧ cs = ds := by
  constructor
  · intro same
    have texts : a.toList ++ heading ++ lines cs = a'.toList ++ heading ++ lines ds := by
      simpa [toList_footer nonempty, toList_footer nonempty'] using congrArg String.toList same
    obtain ⟨answers, citations⟩ := append_lines_inj plain plain' texts
    exact ⟨String.toList_injective answers, citations⟩
  · rintro ⟨rfl, rfl⟩
    rfl

/-- An answer ends in what is a source of the other, and what ends titles and links stands in a
link. -/
theorem append_footer_inj_copied :
    "Yes.\n\n**Sources:**\n- [A]](L&t=9)" ++ footer [⟨"M](N&t=1", "B", 2⟩] ≠
      "Yes." ++ footer [⟨"L", "A]", 9⟩, ⟨"M](N&t=1", "B", 2⟩] := by
  intro same
  have known := (append_footer_inj (by simp) (by simp) (by decide) (by decide)).mp same
  exact absurd known.1 (by decide)

/-- A title with an end in it is not told from one that ends there. -/
example : footer [⟨"b](c", "a", 1⟩] = footer [⟨"c", "a](b", 1⟩] := by decide

end CitedAnswers.Sources.Citation
