import CitedAnswers.Json.Printer
import CitedAnswers.Proofs.Json.Integers
import CitedAnswers.Proofs.Number.Shortest

/-! # Numbers that are written

Every finite number is written as a number of JSON, whatever its format: with a point among its
digits, or with an exponent behind them (`writes_scientific`).  No needless zero stands in front,
because the digits are those of a positive number.  So each number of a document lays something out
(`lays_number`), if only `null`.
-/

namespace CitedAnswers.Json

open CitedAnswers.Number

/-! ## Digits -/

/-- A text that is a number behind either sign. -/
def IsMagnitude (text : List Char) : Prop :=
  ∀ negative, ∃ n : Numeral, n.negative = negative ∧ WritesMagnitude text n

section Digits

variable {ds es : List Nat}

theorem figures_append : figures (ds ++ es) = figures ds ++ figures es :=
  List.map_append

theorem figures_zeros (k : Nat) : figures (List.replicate k 0) = List.replicate k '0' :=
  List.map_replicate

theorem isRun_cons {d : Nat} (small : d < 10) (others : ∀ e ∈ ds, e < 10) : IsRun (d :: ds) :=
  ⟨List.cons_ne_nil d ds, List.forall_mem_cons.mpr ⟨small, others⟩⟩

theorem isRun_zero : IsRun [0] :=
  isRun_cons (by decide) (List.forall_mem_nil _)

theorem zeros_small (k : Nat) : ∀ d ∈ List.replicate k 0, d < 10 := by
  intro d member
  rw [List.eq_of_mem_replicate member]
  decide

theorem isMagnitude_pointed {whole : List Nat} (run : IsRun whole)
    (leading : whole.head? = some 0 → whole = [0]) (behind : IsRun ds) :
    IsMagnitude (figures whole ++ '.' :: figures ds) := by
  intro negative
  refine ⟨⟨negative, whole, some ds, none⟩, rfl, ?_⟩
  simpa using WritesMagnitude.parts run leading (.some behind) .none

theorem isMagnitude_behind_zero (run : IsRun ds) :
    IsMagnitude ("0." ++ String.ofList (figures ds)).toList := by
  rw [String.toList_append, String.toList_ofList, String.toList_ofList]
  exact isMagnitude_pointed isRun_zero (fun _ => rfl) run

/-- Digits that do not begin with zero make a number wherever the point is placed. -/
theorem isMagnitude_placePoint {d : Nat} (nonzero : d ≠ 0) (small : d < 10)
    (others : ∀ e ∈ ds, e < 10) (point : Int) :
    IsMagnitude (placePoint (figures (d :: ds)) point ".0").toList := by
  have run : IsRun (d :: ds) := isRun_cons small others
  have leading (es : List Nat) : (d :: es).head? = some 0 → d :: es = [0] :=
    fun zero => absurd (Option.some.inj zero) nonzero
  -- The point comes before all digits, behind all of them with zeros between, or among them.
  unfold placePoint
  cases point with
  | ofNat p =>
    dsimp only
    cases p with
    | zero =>
      rw [if_pos rfl]
      exact isMagnitude_behind_zero run
    | succ p =>
      rw [if_neg (Nat.succ_ne_zero p)]
      by_cases short : (figures (d :: ds)).length ≤ p + 1
      · rw [if_pos short, String.toList_append, String.toList_ofList, ← figures_zeros,
          ← figures_append]
        exact isMagnitude_pointed
          (isRun_cons small (List.forall_mem_append.mpr ⟨others, zeros_small _⟩)) (leading _)
          isRun_zero
      · rw [if_neg short, String.toList_ofList]
        have long : p < ds.length := by simpa [figures] using short
        have behind : IsRun (ds.drop p) :=
          ⟨by simpa using long, fun e member => others e (List.mem_of_mem_drop member)⟩
        have front : ∀ e ∈ ds.take p, e < 10 :=
          fun e member => others e (List.mem_of_mem_take member)
        have magnitude := isMagnitude_pointed (isRun_cons small front) (leading _) behind
        simpa [figures, List.map_take, List.map_drop] using magnitude
  | negSucc p =>
    dsimp only
    rw [← figures_zeros, ← figures_append]
    exact isMagnitude_behind_zero ⟨List.append_ne_nil_of_right_ne_nil _ run.1,
      List.forall_mem_append.mpr ⟨zeros_small _, run.2⟩⟩

/-- One digit before the point is never a needless zero. -/
theorem isMagnitude_withExponent {d : Nat} (small : d < 10) (others : ∀ e ∈ ds, e < 10)
    (exponent : Int) :
    IsMagnitude (Binary.withExponent (figures (d :: ds)) exponent).toList := by
  intro negative
  have leading : [d].head? = some 0 → [d] = [0] := by
    intro zero
    rw [Option.some.inj zero]
  have run : IsRun [d] := isRun_cons small (List.forall_mem_nil _)
  have mark : WritesExponent
      ('e' :: (if decide (exponent < 0) then '-' else '+') :: figures (digitsOf exponent.natAbs))
      (some (decide (exponent < 0), digitsOf exponent.natAbs)) :=
    .signed (.inl rfl) (isRun_digitsOf _)
  have marked (mantissa : String) :
      (mantissa ++ (if exponent < 0 then "e-" else "e+") ++
        String.ofList (digits exponent.natAbs)).toList =
      mantissa.toList ++ 'e' :: (if decide (exponent < 0) then '-' else '+') ::
        figures (digitsOf exponent.natAbs) := by
    rw [String.toList_append, String.toList_append, String.toList_ofList, figures_digitsOf, digits]
    by_cases minus : exponent < 0 <;> simp [minus]
  unfold Binary.withExponent
  dsimp only
  rw [marked]
  cases ds with
  | nil =>
    refine ⟨⟨negative, [d], none, some (decide (exponent < 0), digitsOf exponent.natAbs)⟩, rfl, ?_⟩
    simpa [figures] using WritesMagnitude.parts run leading .none mark
  | cons e es =>
    refine ⟨⟨negative, [d], some (e :: es),
      some (decide (exponent < 0), digitsOf exponent.natAbs)⟩, rfl, ?_⟩
    have fraction : WritesFraction ('.' :: figures (e :: es)) (some (e :: es)) :=
      .some ⟨List.cons_ne_nil e es, others⟩
    simpa [figures] using WritesMagnitude.parts run leading fraction mark

end Digits

/-! ## Numbers -/

theorem writes_sign {text : String} (magnitude : IsMagnitude text.toList) (negative : Bool) :
    ∃ n, Writes (sign negative text).toList n := by
  obtain ⟨n, signed, writes⟩ := magnitude negative
  cases negative with
  | false => exact ⟨n, .plain signed writes⟩
  | true =>
    refine ⟨n, ?_⟩
    simpa [sign] using Writes.minus signed writes

/-- The digits of a positive number begin with one that is not zero. -/
theorem digits_of_pos {n : Nat} (pos : 0 < n) :
    ∃ d ds, digits n = figures (d :: ds) ∧ d ≠ 0 ∧ d < 10 ∧ ∀ e ∈ ds, e < 10 := by
  obtain ⟨d, ds, split⟩ := List.exists_cons_of_ne_nil (digitsOf_ne_nil n)
  have small := (isRun_digitsOf n).2
  have notZero : d ≠ 0 := by
    rintro rfl
    have none := head_digitsOf (n := n) (by rw [split]; rfl)
    omega
  rw [split] at small
  obtain ⟨first, others⟩ := List.forall_mem_cons.mp small
  exact ⟨d, ds, by rw [← split, figures_digitsOf, digits], notZero, first, others⟩

/-- What is written for a number is a number. -/
theorem writes_scientific {f : Format} {x : Binary f} {layout : Binary.Layout} {text : String}
    (written : x.scientific layout = some text) : ∃ n, Writes text.toList n := by
  cases x with
  | infinite | nan => cases written
  | finite negative quanta =>
    unfold Binary.scientific at written
    dsimp only at written
    by_cases zero : quanta = 0
    · rw [if_pos zero] at written
      cases written
      have magnitude : IsMagnitude "0.0".toList := by
        rw [String.toList_ofList]
        exact isMagnitude_pointed isRun_zero (fun _ => rfl) isRun_zero
      exact writes_sign magnitude negative
    · rw [if_neg zero] at written
      obtain ⟨d, ds, same, notZero, small, others⟩ :=
        digits_of_pos (shortest_pos f .toEven (Nat.pos_of_ne_zero zero))
      rw [same] at written
      split at written
      · cases written
        exact writes_sign (isMagnitude_placePoint notZero small others _) negative
      · cases written
        exact writes_sign (isMagnitude_withExponent small others _) negative

theorem lays_number (x : Numeric) : ∃ tree, Lays (renderChars (.number x)) tree := by
  rw [renderChars]
  have written {text : Option String} (writes : ∀ {s}, text = some s → ∃ n, Writes s.toList n) :
      ∃ tree, Lays (text.getD "null").toList tree := by
    cases text with
    | none => exact ⟨.null, .null⟩
    | some s =>
      obtain ⟨n, laid⟩ := writes rfl
      exact ⟨.number n, .number laid⟩
  cases x with
  | whole n => exact ⟨_, .number (writes_integer n)⟩
  | double x => exact written writes_scientific
  | single x => exact written writes_scientific

end CitedAnswers.Json
