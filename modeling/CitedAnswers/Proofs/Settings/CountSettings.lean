import CitedAnswers.Proofs.Json.Integers
import CitedAnswers.Proofs.Settings.Kinds

/-! # Count settings from documents

The port, the number of passages and the time limit are counts.  An integer that a document gives
one of them is read as a number first, as a value next and as a count last, and each step has a
range of its own.  `countOfInteger` is what is left of the integer behind all of them
(`readCount_of_integer`).

The main statement is `CountSetting.valueIn_eq_iff_keeps`: settings that were loaded hold exactly
the integer that the document gives if and only if it is one of those that all steps keep.
-/

namespace CitedAnswers.Settings

open CitedAnswers.Json (Numeric)
open CitedAnswers.Number (Binary Binary64 binary64 roundToEven)

/-! ## Integers as counts -/

/-- The count that an integer of a document is read as: past the signed 64-bit range it is a double
in between, which is rounded to a multiple of 2048, and of what is not a word the nearest word is
taken. -/
def countOfInteger (n : Int) : Option Nat :=
  if n < -2 ^ 63 then some 0
  else if n < 0 then none
  else if n < 2 ^ 63 then some n.toNat
  else if n < 2 ^ 64 then some (min (roundToEven n.toNat 2048 * 2048) Binary.greatestWord)
  else some Binary.greatestWord

theorem isInt64_eq_true_iff {n : Int} : isInt64 n = true ↔ -2 ^ 63 ≤ n ∧ n < 2 ^ 63 := by
  unfold isInt64
  rw [Bool.and_eq_true, decide_eq_true_eq, decide_eq_true_eq]
  omega

/-- Between `2 ^ 63` and `2 ^ 64` doubles lie 2048 apart. -/
theorem roundToWord_ofInt {n : Int} (unsigned : 2 ^ 63 ≤ n) (word : n < 2 ^ 64) :
    (Binary.ofInt n : Binary64).roundToWord =
      min (roundToEven n.toNat 2048 * 2048) Binary.greatestWord := by
  obtain ⟨m, rfl⟩ := Int.eq_ofNat_of_zero_le (Int.le_trans (by decide) unsigned)
  have least : 2 ^ 63 ≤ m := by omega
  have below : m < 2 ^ 64 := by omega
  have bits : binary64.excess m = 11 := by
    have length : m.log2 = 63 := (Nat.log2_eq_iff (by omega)).mpr ⟨least, below⟩
    rw [Number.Format.excess, length]
    rfl
  have positive : (Binary.ofInt m : Binary64) = Binary.ofQuotient false m 1 := by
    rw [Binary.ofInt, decide_eq_false (by omega), Int.natAbs_natCast]
  have step : 2 ^ 11 = 2048 := rfl
  rw [positive, Binary.roundToWord_natural (by decide) below (by decide), bits, step,
    Int.toNat_natCast]

theorem min_rounded_eq_iff {m : Nat} (unsigned : 2 ^ 63 ≤ m) (word : m < 2 ^ 64) :
    min (roundToEven m 2048 * 2048) Binary.greatestWord = m ↔ 2048 ∣ m ∨ m = 2 ^ 64 - 1 := by
  unfold roundToEven Binary.greatestWord
  dsimp only
  split_ifs <;> omega

theorem readCount_whole {n : Int} (signed : -2 ^ 63 ≤ n) (word : n < 2 ^ 64) :
    (readCount (.ofNumber (.whole n))).toOption = countOfInteger n := by
  unfold Value.ofNumber countOfInteger
  rw [if_neg (Int.not_lt.mpr signed)]
  by_cases fits : n < 2 ^ 63
  · have isInt : isInt64 n = true := isInt64_eq_true_iff.mpr ⟨signed, fits⟩
    dsimp only
    rw [if_pos isInt, readCount]
    by_cases negative : n < 0
    · rw [if_pos negative, if_neg (Int.not_le.mpr negative)]
      rfl
    · rw [if_neg negative, if_pos fits, if_pos (Int.not_lt.mp negative)]
      rfl
  · have unsigned : 2 ^ 63 ≤ n := Int.not_lt.mp fits
    have noInt : ¬isInt64 n = true := fun isInt => fits (isInt64_eq_true_iff.mp isInt).2
    dsimp only
    rw [if_neg noInt, if_neg (by omega), if_neg fits, if_pos word, readCount,
      roundToWord_ofInt unsigned word]
    rfl

/-- An integer of a document is read as this count. -/
theorem readCount_of_integer {n : Int} {number : Numeric}
    (integer : Json.parse (toString n) = .ok (.number number)) :
    (readCount (.ofNumber number)).toOption = countOfInteger n := by
  have value := Json.value_of_parse integer
  by_cases long : Binary.greatestWord < n.natAbs
  · -- Past a word on either side, the integer is a scaled double.
    obtain ⟨taken, places, x, rfl, double, word, past⟩ := Json.double_of_long long value
    have count := Json.roundToWord_of_long word past double
    unfold Binary.greatestWord at long
    unfold countOfInteger
    by_cases negative : n < 0
    · rw [decide_eq_true negative] at count
      rw [if_pos (by omega)]
      exact congrArg some count
    · rw [decide_eq_false negative] at count
      rw [if_neg (by omega), if_neg negative, if_neg (by omega), if_neg (by omega)]
      exact congrArg some count
  · have word : n.natAbs ≤ Binary.greatestWord := Nat.not_lt.mp long
    by_cases negative : n < 0
    · rw [decide_eq_true negative, Json.value_negative word] at value
      by_cases far : Json.leastMagnitude < n.natAbs
      · rw [if_pos (.inr far)] at value
        cases value
        have count := Binary.roundToWord_ofQuotient_true (f := binary64) n.natAbs 1
        unfold Json.leastMagnitude at far
        unfold countOfInteger
        rw [if_pos (by omega)]
        exact congrArg some count
      · have near : ¬(n.natAbs = 0 ∨ Json.leastMagnitude < n.natAbs) := by omega
        rw [if_neg near] at value
        unfold Json.leastMagnitude at far
        cases value
        have same : -(n.natAbs : Int) = n := by omega
        rw [same]
        exact readCount_whole (by omega) (by omega)
    · rw [decide_eq_false negative, Json.value_natural word] at value
      unfold Binary.greatestWord at word
      cases value
      have same : (n.natAbs : Int) = n := by omega
      rw [same]
      exact readCount_whole (by omega) (by omega)

/-! ## Count settings -/

namespace CountSetting

/-- The integers that a document can give the setting: those that it holds as they are. -/
def Keeps : CountSetting → Int → Prop
  | listenPort, n => 0 ≤ n ∧ n < 2 ^ 16
  | topK, n | timeoutSeconds, n =>
    0 ≤ n ∧ (n < 2 ^ 63 ∨ n < 2 ^ 64 ∧ (2048 ∣ n ∨ n = 2 ^ 64 - 1))

theorem held_le (k : CountSetting) (count : Nat) : k.held count ≤ count := by
  cases k with
  | listenPort => exact Nat.mod_le count 65536
  | topK | timeoutSeconds => exact Nat.le_refl count

/-- The integers that a setting keeps are those whose count it holds as it is. -/
theorem held_eq_iff {k : CountSetting} {n : Int} {count : Nat}
    (counted : countOfInteger n = some count) : (k.held count : Int) = n ↔ k.Keeps n := by
  unfold countOfInteger at counted
  split_ifs at counted with far negative small word
  · cases counted
    cases k <;> simp only [held, Keeps] <;> omega
  · cases counted
    cases k <;> simp only [held, Keeps] <;> omega
  · have rounded := min_rounded_eq_iff (m := n.toNat) (by omega) (by omega)
    rw [Option.some.inj counted] at rounded
    cases k <;> simp only [held, Keeps] <;> omega
  · have bound := k.held_le count
    have greatest := Option.some.inj counted
    unfold Binary.greatestWord at greatest
    cases k <;> simp only [Keeps] <;> omega

end CountSetting

/-! ## Loading -/

/-- A document gives a setting last what it gives it at all, since it names each member once. -/
theorem lastGiven?_documentAssignments {members : List (String × Json)} {key : String}
    {value : Json} (ordered : members.Pairwise fun a b => a.1 < b.1)
    (there : members.lookup key = some value) :
    lastGiven? key (documentAssignments (.object members)) = some ⟨.ofJson value, false⟩ := by
  induction members with
  | nil => cases there
  | cons entry rest ih =>
    obtain ⟨name, first⟩ := entry
    obtain ⟨before, ordered⟩ := List.pairwise_cons.mp ordered
    rw [List.lookup_cons] at there
    have cons : documentAssignments (.object ((name, first) :: rest)) =
        ⟨name, ⟨.ofJson first, false⟩⟩ :: documentAssignments (.object rest) := rfl
    rw [cons, lastGiven?_cons]
    by_cases same : name = key
    · -- No later member has the name, since all of them are ordered behind it.
      have none : lastGiven? key (documentAssignments (.object rest)) = none := by
        rw [lastGiven?_eq_none_iff]
        intro a member named
        obtain ⟨other, isThere, rfl⟩ := List.mem_map.mp member
        have later := before other isThere
        rw [same, ← named] at later
        exact String.lt_irrefl _ later
      rw [beq_iff_eq.mpr same.symm] at there
      cases there
      rw [none, if_pos same]
      rfl
    · have other : (key == name) = false := beq_eq_false_iff_ne.mpr (Ne.symm same)
      rw [other] at there
      rw [ih ordered there]
      rfl

/-- An integer that a document gives a count setting is read as a count, so loading fails if it is
negative and of the signed 64-bit range.  Settings that were loaded hold exactly the integer if and
only if it is one of those that the setting keeps. -/
theorem CountSetting.valueIn_eq_iff_keeps {k : CountSetting} {n : Int} {number : Numeric}
    {text : String} {document : Json} {s : Settings}
    (parsed : Json.parse text = .ok document)
    (given : document.member? k.key = some (.number number))
    (integer : Json.parse (toString n) = .ok (.number number))
    (loaded : loadJson text = .ok s) :
    (∃ count, countOfInteger n = some count ∧ k.valueIn s = k.held count) ∧
      ((k.valueIn s : Int) = n ↔ k.Keeps n) := by
  unfold loadJson at loaded
  rw [parsed] at loaded
  obtain ⟨members, rfl⟩ : ∃ members, document = .object members := by
    cases document with
    | object members => exact ⟨members, rfl⟩
    | null | bool | number | string | array => cases given
  have last := lastGiven?_documentAssignments (Json.pairwise_of_parse parsed) given
  have scalar : ∀ isEmpty, Value.ofNumber number ≠ .table isEmpty := by
    intro isEmpty table
    unfold Value.ofNumber at table
    split at table
    · split at table <;> cases table
    · cases table
    · cases table
  have counted : ∃ count, countOfInteger n = some count ∧ k.valueIn s = k.held count := by
    obtain ⟨count, read, value⟩ :=
      Setting.reads_of_lastGiven? (k := .count k) scalar last loaded
    refine ⟨count, ?_, value⟩
    rw [← readCount_of_integer integer]
    exact congrArg Except.toOption read
  refine ⟨counted, ?_⟩
  obtain ⟨count, isCount, value⟩ := counted
  rw [value]
  exact held_eq_iff isCount

def widePort : String :=
  "\x7b\"openai_api_key\":\"sk-test\",\"pinecone_api_key\":\"pc-test\"," ++
    "\"pinecone_index_host\":\"https://index\",\"port\":70000\x7d"

def widePortDocument : Json := .object [
  ("openai_api_key", .string "sk-test"),
  ("pinecone_api_key", .string "pc-test"),
  ("pinecone_index_host", .string "https://index"),
  ("port", .number (.whole 70000))]

/-- A port past 65535 loses all but its last 16 bits. -/
theorem CountSetting.not_keeps_wide_port :
    ∃ s, loadJson widePort = .ok s ∧ s.listenPort = 4464 ∧
      ((listenPort.valueIn s : Int) = 70000 ↔ listenPort.Keeps 70000) ∧
      ¬listenPort.Keeps 70000 := by
  have parsed : Json.parse widePort = .ok widePortDocument := by cbv
  obtain ⟨s, loaded, port⟩ : ∃ s, loadJson widePort = .ok s ∧ s.listenPort = 4464 := by
    unfold loadJson
    rw [parsed]
    exact ⟨_, rfl, rfl⟩
  have kept := (valueIn_eq_iff_keeps (k := listenPort) (n := 70000) parsed rfl (by cbv) loaded).2
  refine ⟨s, loaded, port, kept, ?_⟩
  unfold Keeps
  decide

end CitedAnswers.Settings
