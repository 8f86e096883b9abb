import CitedAnswers.Text.Lowercase
import Mathlib.Data.List.Forall2

/-! # Lower case of all letters

`lower` does without the capitals beyond ASCII whose small letters are beyond ASCII too.  The whole of
Unicode lower case (`lowercase`) takes a capital to its small letter by a table, the capital I with
dot above to two characters, and the capital sigma to one of two letters, which depends on what
stands in front of it and behind it.

The two differ in places where neither has an ASCII character or a dash (`forall₂_lowercase`).  So a
pattern of ASCII characters and dashes stands in one exactly if it stands in the other
(`infix_lowercase_iff`), whatever decides which sigma it is.
-/

namespace CitedAnswers.Text

/-! ## Small letters -/

/-- Capitals at equal distances, each as far from its small letter. -/
structure CapitalRange where
  first : Nat
  last : Nat
  step : Nat
  offset : Int
  deriving DecidableEq

/-- The capitals beyond ASCII with one small letter beyond ASCII, after the table of Unicode 17. -/
def capitalRanges : List CapitalRange := [
  ⟨0xC0, 0xD6, 1, 32⟩, ⟨0xD8, 0xDE, 1, 32⟩, ⟨0x100, 0x12E, 2, 1⟩, ⟨0x132, 0x136, 2, 1⟩,
  ⟨0x139, 0x147, 2, 1⟩, ⟨0x14A, 0x176, 2, 1⟩, ⟨0x178, 0x178, 1, -121⟩, ⟨0x179, 0x17D, 2, 1⟩,
  ⟨0x181, 0x181, 1, 210⟩, ⟨0x182, 0x184, 2, 1⟩, ⟨0x186, 0x186, 1, 206⟩, ⟨0x187, 0x187, 1, 1⟩,
  ⟨0x189, 0x18A, 1, 205⟩, ⟨0x18B, 0x18B, 1, 1⟩, ⟨0x18E, 0x18E, 1, 79⟩, ⟨0x18F, 0x18F, 1, 202⟩,
  ⟨0x190, 0x190, 1, 203⟩, ⟨0x191, 0x191, 1, 1⟩, ⟨0x193, 0x193, 1, 205⟩, ⟨0x194, 0x194, 1, 207⟩,
  ⟨0x196, 0x196, 1, 211⟩, ⟨0x197, 0x197, 1, 209⟩, ⟨0x198, 0x198, 1, 1⟩, ⟨0x19C, 0x19C, 1, 211⟩,
  ⟨0x19D, 0x19D, 1, 213⟩, ⟨0x19F, 0x19F, 1, 214⟩, ⟨0x1A0, 0x1A4, 2, 1⟩, ⟨0x1A6, 0x1A6, 1, 218⟩,
  ⟨0x1A7, 0x1A7, 1, 1⟩, ⟨0x1A9, 0x1A9, 1, 218⟩, ⟨0x1AC, 0x1AC, 1, 1⟩, ⟨0x1AE, 0x1AE, 1, 218⟩,
  ⟨0x1AF, 0x1AF, 1, 1⟩, ⟨0x1B1, 0x1B2, 1, 217⟩, ⟨0x1B3, 0x1B5, 2, 1⟩, ⟨0x1B7, 0x1B7, 1, 219⟩,
  ⟨0x1B8, 0x1B8, 1, 1⟩, ⟨0x1BC, 0x1BC, 1, 1⟩, ⟨0x1C4, 0x1C4, 1, 2⟩, ⟨0x1C5, 0x1C5, 1, 1⟩,
  ⟨0x1C7, 0x1C7, 1, 2⟩, ⟨0x1C8, 0x1C8, 1, 1⟩, ⟨0x1CA, 0x1CA, 1, 2⟩, ⟨0x1CB, 0x1DB, 2, 1⟩,
  ⟨0x1DE, 0x1EE, 2, 1⟩, ⟨0x1F1, 0x1F1, 1, 2⟩, ⟨0x1F2, 0x1F4, 2, 1⟩, ⟨0x1F6, 0x1F6, 1, -97⟩,
  ⟨0x1F7, 0x1F7, 1, -56⟩, ⟨0x1F8, 0x21E, 2, 1⟩, ⟨0x220, 0x220, 1, -130⟩, ⟨0x222, 0x232, 2, 1⟩,
  ⟨0x23A, 0x23A, 1, 10795⟩, ⟨0x23B, 0x23B, 1, 1⟩, ⟨0x23D, 0x23D, 1, -163⟩,
  ⟨0x23E, 0x23E, 1, 10792⟩, ⟨0x241, 0x241, 1, 1⟩, ⟨0x243, 0x243, 1, -195⟩, ⟨0x244, 0x244, 1, 69⟩,
  ⟨0x245, 0x245, 1, 71⟩, ⟨0x246, 0x24E, 2, 1⟩, ⟨0x370, 0x372, 2, 1⟩, ⟨0x376, 0x376, 1, 1⟩,
  ⟨0x37F, 0x37F, 1, 116⟩, ⟨0x386, 0x386, 1, 38⟩, ⟨0x388, 0x38A, 1, 37⟩, ⟨0x38C, 0x38C, 1, 64⟩,
  ⟨0x38E, 0x38F, 1, 63⟩, ⟨0x391, 0x3A1, 1, 32⟩, ⟨0x3A3, 0x3AB, 1, 32⟩, ⟨0x3CF, 0x3CF, 1, 8⟩,
  ⟨0x3D8, 0x3EE, 2, 1⟩, ⟨0x3F4, 0x3F4, 1, -60⟩, ⟨0x3F7, 0x3F7, 1, 1⟩, ⟨0x3F9, 0x3F9, 1, -7⟩,
  ⟨0x3FA, 0x3FA, 1, 1⟩, ⟨0x3FD, 0x3FF, 1, -130⟩, ⟨0x400, 0x40F, 1, 80⟩, ⟨0x410, 0x42F, 1, 32⟩,
  ⟨0x460, 0x480, 2, 1⟩, ⟨0x48A, 0x4BE, 2, 1⟩, ⟨0x4C0, 0x4C0, 1, 15⟩, ⟨0x4C1, 0x4CD, 2, 1⟩,
  ⟨0x4D0, 0x52E, 2, 1⟩, ⟨0x531, 0x556, 1, 48⟩, ⟨0x10A0, 0x10C5, 1, 7264⟩,
  ⟨0x10C7, 0x10C7, 1, 7264⟩, ⟨0x10CD, 0x10CD, 1, 7264⟩, ⟨0x13A0, 0x13EF, 1, 38864⟩,
  ⟨0x13F0, 0x13F5, 1, 8⟩, ⟨0x1C89, 0x1C89, 1, 1⟩, ⟨0x1C90, 0x1CBA, 1, -3008⟩,
  ⟨0x1CBD, 0x1CBF, 1, -3008⟩, ⟨0x1E00, 0x1E94, 2, 1⟩, ⟨0x1E9E, 0x1E9E, 1, -7615⟩,
  ⟨0x1EA0, 0x1EFE, 2, 1⟩, ⟨0x1F08, 0x1F0F, 1, -8⟩, ⟨0x1F18, 0x1F1D, 1, -8⟩,
  ⟨0x1F28, 0x1F2F, 1, -8⟩, ⟨0x1F38, 0x1F3F, 1, -8⟩, ⟨0x1F48, 0x1F4D, 1, -8⟩,
  ⟨0x1F59, 0x1F5F, 2, -8⟩, ⟨0x1F68, 0x1F6F, 1, -8⟩, ⟨0x1F88, 0x1F8F, 1, -8⟩,
  ⟨0x1F98, 0x1F9F, 1, -8⟩, ⟨0x1FA8, 0x1FAF, 1, -8⟩, ⟨0x1FB8, 0x1FB9, 1, -8⟩,
  ⟨0x1FBA, 0x1FBB, 1, -74⟩, ⟨0x1FBC, 0x1FBC, 1, -9⟩, ⟨0x1FC8, 0x1FCB, 1, -86⟩,
  ⟨0x1FCC, 0x1FCC, 1, -9⟩, ⟨0x1FD8, 0x1FD9, 1, -8⟩, ⟨0x1FDA, 0x1FDB, 1, -100⟩,
  ⟨0x1FE8, 0x1FE9, 1, -8⟩, ⟨0x1FEA, 0x1FEB, 1, -112⟩, ⟨0x1FEC, 0x1FEC, 1, -7⟩,
  ⟨0x1FF8, 0x1FF9, 1, -128⟩, ⟨0x1FFA, 0x1FFB, 1, -126⟩, ⟨0x1FFC, 0x1FFC, 1, -9⟩,
  ⟨0x2126, 0x2126, 1, -7517⟩, ⟨0x212B, 0x212B, 1, -8262⟩, ⟨0x2132, 0x2132, 1, 28⟩,
  ⟨0x2160, 0x216F, 1, 16⟩, ⟨0x2183, 0x2183, 1, 1⟩, ⟨0x24B6, 0x24CF, 1, 26⟩,
  ⟨0x2C00, 0x2C2F, 1, 48⟩, ⟨0x2C60, 0x2C60, 1, 1⟩, ⟨0x2C62, 0x2C62, 1, -10743⟩,
  ⟨0x2C63, 0x2C63, 1, -3814⟩, ⟨0x2C64, 0x2C64, 1, -10727⟩, ⟨0x2C67, 0x2C6B, 2, 1⟩,
  ⟨0x2C6D, 0x2C6D, 1, -10780⟩, ⟨0x2C6E, 0x2C6E, 1, -10749⟩, ⟨0x2C6F, 0x2C6F, 1, -10783⟩,
  ⟨0x2C70, 0x2C70, 1, -10782⟩, ⟨0x2C72, 0x2C72, 1, 1⟩, ⟨0x2C75, 0x2C75, 1, 1⟩,
  ⟨0x2C7E, 0x2C7F, 1, -10815⟩, ⟨0x2C80, 0x2CE2, 2, 1⟩, ⟨0x2CEB, 0x2CED, 2, 1⟩,
  ⟨0x2CF2, 0x2CF2, 1, 1⟩, ⟨0xA640, 0xA66C, 2, 1⟩, ⟨0xA680, 0xA69A, 2, 1⟩, ⟨0xA722, 0xA72E, 2, 1⟩,
  ⟨0xA732, 0xA76E, 2, 1⟩, ⟨0xA779, 0xA77B, 2, 1⟩, ⟨0xA77D, 0xA77D, 1, -35332⟩,
  ⟨0xA77E, 0xA786, 2, 1⟩, ⟨0xA78B, 0xA78B, 1, 1⟩, ⟨0xA78D, 0xA78D, 1, -42280⟩,
  ⟨0xA790, 0xA792, 2, 1⟩, ⟨0xA796, 0xA7A8, 2, 1⟩, ⟨0xA7AA, 0xA7AA, 1, -42308⟩,
  ⟨0xA7AB, 0xA7AB, 1, -42319⟩, ⟨0xA7AC, 0xA7AC, 1, -42315⟩, ⟨0xA7AD, 0xA7AD, 1, -42305⟩,
  ⟨0xA7AE, 0xA7AE, 1, -42308⟩, ⟨0xA7B0, 0xA7B0, 1, -42258⟩, ⟨0xA7B1, 0xA7B1, 1, -42282⟩,
  ⟨0xA7B2, 0xA7B2, 1, -42261⟩, ⟨0xA7B3, 0xA7B3, 1, 928⟩, ⟨0xA7B4, 0xA7C2, 2, 1⟩,
  ⟨0xA7C4, 0xA7C4, 1, -48⟩, ⟨0xA7C5, 0xA7C5, 1, -42307⟩, ⟨0xA7C6, 0xA7C6, 1, -35384⟩,
  ⟨0xA7C7, 0xA7C9, 2, 1⟩, ⟨0xA7CB, 0xA7CB, 1, -42343⟩, ⟨0xA7CC, 0xA7DA, 2, 1⟩,
  ⟨0xA7DC, 0xA7DC, 1, -42561⟩, ⟨0xA7F5, 0xA7F5, 1, 1⟩, ⟨0xFF21, 0xFF3A, 1, 32⟩,
  ⟨0x10400, 0x10427, 1, 40⟩, ⟨0x104B0, 0x104D3, 1, 40⟩, ⟨0x10570, 0x1057A, 1, 39⟩,
  ⟨0x1057C, 0x1058A, 1, 39⟩, ⟨0x1058C, 0x10592, 1, 39⟩, ⟨0x10594, 0x10595, 1, 39⟩,
  ⟨0x10C80, 0x10CB2, 1, 64⟩, ⟨0x10D50, 0x10D65, 1, 32⟩, ⟨0x118A0, 0x118BF, 1, 32⟩,
  ⟨0x16E40, 0x16E5F, 1, 32⟩, ⟨0x16EA0, 0x16EB8, 1, 27⟩, ⟨0x1E900, 0x1E921, 1, 34⟩]

/-- Whether a code point is one of the capitals. -/
def CapitalRange.holds (r : CapitalRange) (n : Nat) : Bool :=
  r.first ≤ n && n ≤ r.last && (n - r.first) % r.step == 0

/-- The lower-case form of a character on its own. -/
def smallForm (c : Char) : List Char :=
  if c.toNat < 0x80 then [c.toLower]
  else if c.toNat = 0x212A then ['k']
  else if c.toNat = 0x130 then ['i', Char.ofNat 0x307]
  else match capitalRanges.find? fun r => r.holds c.toNat with
    | some r => [Char.ofNat (c.toNat + r.offset).toNat]
    | none => [c]

/-- A rule that tells from what stands in front of a capital sigma, the nearest character first, and
from what stands behind it whether it becomes the final form. -/
abbrev SigmaRule := (before behind : List Char) → Bool

/-- The whole of lower case, for a text that stands behind what the first characters say. -/
def lowercase (isFinal : SigmaRule) : (before text : List Char) → List Char
  | _, [] => []
  | before, c :: rest =>
    let form := if c = 'Σ' then [if isFinal before rest then 'ς' else 'σ'] else smallForm c
    form ++ lowercase isFinal (c :: before) rest

/-! ## Characters of patterns -/

/-- Whether a character is one that patterns are made of. -/
def isPlain (c : Char) : Bool :=
  c.toNat < 0x80 || c == '—'

/-- Whether two characters are the same, or neither can stand in a pattern. -/
def Alike (a b : Char) : Prop :=
  a = b ∨ isPlain a = false ∧ isPlain b = false

/-- Neither the capitals of a range nor their small letters stand in patterns. -/
def CapitalRange.IsBeyond (r : CapitalRange) : Prop :=
  0x80 ≤ r.first ∧ (r.last < 0x2014 ∨ 0x2014 < r.first) ∧
    0x80 ≤ r.first + r.offset ∧ (r.last + r.offset < 0x2014 ∨ 0x2014 < r.first + r.offset) ∧
    (r.last + r.offset < 0xD800 ∨ 0xDFFF < r.first + r.offset ∧ r.last + r.offset < 0x110000)

instance (r : CapitalRange) : Decidable r.IsBeyond :=
  inferInstanceAs (Decidable (_ ∧ _))

theorem isBeyond_of_mem : ∀ r ∈ capitalRanges, r.IsBeyond := by
  decide +kernel

theorem toLower_of_le {c : Char} (beyond : 0x80 ≤ c.toNat) : c.toLower = c := by
  unfold Char.toLower
  rw [dif_neg]
  rintro ⟨-, letter⟩
  have bound : c.toNat ≤ 'Z'.toNat := letter
  have last : 'Z'.toNat = 90 := rfl
  omega

theorem isPlain_eq_false {c : Char} (beyond : 0x80 ≤ c.toNat) (other : c.toNat ≠ 0x2014) :
    isPlain c = false := by
  have noDash : c ≠ '—' := by
    rintro rfl
    exact other rfl
  simp [isPlain, noDash, beyond]

/-- A capital of a range and its small letter are alike to patterns. -/
theorem alike_of_holds {r : CapitalRange} (beyond : r.IsBeyond) {c : Char}
    (holds : r.holds c.toNat = true) : Alike (Char.ofNat (c.toNat + r.offset).toNat) c := by
  obtain ⟨capital, dash, small, dash', valid⟩ := beyond
  simp only [CapitalRange.holds, Bool.and_eq_true, decide_eq_true_eq] at holds
  obtain ⟨⟨first, last⟩, -⟩ := holds
  have target : (Char.ofNat (c.toNat + r.offset).toNat).toNat = (c.toNat + r.offset).toNat := by
    have inRange : (c.toNat + r.offset).toNat.isValidChar := by
      unfold Nat.isValidChar
      omega
    rw [Char.ofNat, dif_pos inRange]
    rfl
  refine .inr ⟨isPlain_eq_false ?_ ?_, isPlain_eq_false ?_ ?_⟩ <;> omega

theorem forall₂_smallForm (c : Char) : List.Forall₂ Alike (smallForm c) (lowerChar c) := by
  have same : ∀ cs : List Char, List.Forall₂ Alike cs cs :=
    fun cs => List.forall₂_same.mpr fun _ _ => .inl rfl
  unfold smallForm lowerChar
  by_cases ascii : c.toNat < 0x80
  · have noKelvin : c.toNat ≠ 0x212A := by omega
    have noDotted : c.toNat ≠ 0x130 := by omega
    rw [if_pos ascii, if_neg noKelvin, if_neg noDotted]
    exact same _
  rw [if_neg ascii]
  split
  · exact same _
  split
  · exact same _
  rw [toLower_of_le (Nat.not_lt.mp ascii)]
  split
  · next r found =>
    have beyond := isBeyond_of_mem r (List.mem_of_find?_eq_some found)
    have holds : r.holds c.toNat = true := by simpa using List.find?_some found
    exact .cons (alike_of_holds beyond holds) .nil
  · exact same _

/-- Lower case of all letters and of those that patterns have differ only where no pattern has a
character. -/
theorem forall₂_lowercase (isFinal : SigmaRule) (before text : List Char) :
    List.Forall₂ Alike (lowercase isFinal before text) (lower text) := by
  induction text generalizing before with
  | nil => exact .nil
  | cons c rest ih =>
    have form : List.Forall₂ Alike
        (if c = 'Σ' then [if isFinal before rest then 'ς' else 'σ'] else smallForm c)
        (lowerChar c) := by
      split
      · next sigma =>
        subst sigma
        refine .cons (.inr ⟨?_, by decide⟩) .nil
        split <;> decide
      · exact forall₂_smallForm c
    exact List.rel_append form (ih (c :: before))

/-- The two for a Greek word, a sharp S, a capital I with dot above and a Kelvin sign. -/
example :
    lowercase (fun _ rest => rest.head? == some ' ') [] "ΟΔΟΣ ẞİ\u212A".toList =
        "οδος ßi\u0307k".toList ∧
      lower "ΟΔΟΣ ẞİ\u212A".toList = "ΟΔΟΣ ẞi\u0307k".toList := by
  decide +kernel

/-! ## Patterns in texts -/

theorem occursIn_iff {pattern text : List Char} :
    occursIn pattern text = true ↔ pattern <:+: text := by
  induction text with
  | nil => simp [occursIn]
  | cons c rest ih => simp [occursIn, ih, List.infix_cons_iff]

section Patterns

variable {pattern s t : List Char}

theorem eq_of_forall₂_alike (plain : ∀ c ∈ pattern, isPlain c = true)
    (alike : List.Forall₂ Alike s pattern) : s = pattern := by
  induction alike with
  | nil => rfl
  | @cons a b s pattern first others ih =>
    obtain ⟨here, there⟩ := List.forall_mem_cons.mp plain
    rcases first with rfl | ⟨-, none⟩
    · rw [ih there]
    · rw [here] at none
      cases none

theorem infix_of_forall₂ (plain : ∀ c ∈ pattern, isPlain c = true)
    (alike : List.Forall₂ Alike s t) (inside : pattern <:+: t) : pattern <:+: s := by
  obtain ⟨before, behind, rfl⟩ := inside
  rw [List.append_assoc] at alike
  have part := List.forall₂_take_append _ pattern behind
    (List.forall₂_drop_append s before (pattern ++ behind) alike)
  -- What stands against the pattern is the pattern.
  rw [← eq_of_forall₂_alike plain part]
  exact (List.take_prefix _ _).isInfix.trans (List.drop_suffix _ _).isInfix

/-- A pattern of ASCII characters and dashes stands in a text in lower case exactly if it stands there
with the capitals beyond ASCII left as they are. -/
theorem infix_lowercase_iff (plain : ∀ c ∈ pattern, isPlain c = true) (isFinal : SigmaRule)
    (before text : List Char) :
    pattern <:+: lowercase isFinal before text ↔ pattern <:+: lower text := by
  have alike := forall₂_lowercase isFinal before text
  have mirrored : List.Forall₂ Alike (lower text) (lowercase isFinal before text) := by
    refine List.Forall₂.flip (List.Forall₂.imp ?_ alike)
    rintro a b (same | ⟨one, other⟩)
    · exact .inl same.symm
    · exact .inr ⟨other, one⟩
  exact ⟨infix_of_forall₂ plain mirrored, infix_of_forall₂ plain alike⟩

end Patterns

/-! ## Letter case -/

/-- Whether texts differ at most in the case of ASCII letters. -/
def Recased (s t : List Char) : Prop :=
  s.map Char.toLower = t.map Char.toLower

instance (s t : List Char) : Decidable (Recased s t) :=
  inferInstanceAs (Decidable (_ = _))

theorem lowerChar_toLower (c : Char) : lowerChar c.toLower = lowerChar c := by
  by_cases ascii : c.toNat < 0x80
  · have all : ∀ n < 0x80, lowerChar (Char.ofNat n).toLower = lowerChar (Char.ofNat n) := by
      decide
    rw [← Char.ofNat_toNat c]
    exact all c.toNat ascii
  · rw [toLower_of_le (Nat.not_lt.mp ascii)]

theorem lower_eq_of_recased {s t : List Char} (recased : Recased s t) : lower s = lower t := by
  have lowered : ∀ cs : List Char, lower cs = lower (cs.map Char.toLower) := by
    intro cs
    rw [lower, lower, List.flatMap_map]
    exact List.flatMap_congr fun c _ => (lowerChar_toLower c).symm
  rw [lowered s, lowered t, recased]

end CitedAnswers.Text
