import CitedAnswers.Data.Association
import CitedAnswers.Metrics.Tally
import Mathlib.Algebra.Ring.Nat
import Mathlib.Data.List.Induction

/-! # What a tally has counted

`Counts` is what holds of counts by name after some names have been counted, in whatever order they
came: each name is there once, in increasing order, with the number of times it came, and the counts
add up to the number of all.  Counting one more name keeps it (`Counts.increment`), so it holds of
every series (`counts_foldl`).

Counts are words, so a sum is stated below `2 ^ 64`, where no single count can wrap, or else modulo
`2 ^ 64` (`total_increment_mod`).
-/

namespace CitedAnswers.Metrics

open CitedAnswers.Answering (Ending)

def countOf (name : String) (counts : List (String × UInt64)) : UInt64 :=
  (counts.lookup name).getD 0

def total (counts : List (String × UInt64)) : Nat :=
  (counts.map fun entry => entry.2.toNat).sum

theorem countOf_cons (name n : String) (count : UInt64) (rest : List (String × UInt64)) :
    countOf name ((n, count) :: rest) = if name = n then count else countOf name rest := by
  unfold countOf
  rw [Association.lookup_cons]
  split <;> rfl

theorem total_cons (n : String) (count : UInt64) (rest : List (String × UInt64)) :
    total ((n, count) :: rest) = count.toNat + total rest := by
  rw [total, List.map_cons, List.sum_cons, total]

/-! ## One more -/

theorem mem_names_increment (name n : String) (counts : List (String × UInt64)) :
    n ∈ (increment name counts).map Prod.fst ↔ n ∈ counts.map Prod.fst ∨ n = name := by
  induction counts with
  | nil => simp [increment]
  | cons entry rest ih =>
    obtain ⟨m, count⟩ := entry
    unfold increment
    split
    · simp only [List.map_cons, List.mem_cons]
      exact or_comm
    · split
      · next same => simp [same, or_comm]
      · simp only [List.map_cons, List.mem_cons, ih, or_assoc]

theorem pairwise_increment (name : String) {counts : List (String × UInt64)}
    (ordered : counts.Pairwise fun a b => a.1 < b.1) :
    (increment name counts).Pairwise fun a b => a.1 < b.1 := by
  induction counts with
  | nil => exact List.pairwise_singleton _ _
  | cons entry rest ih =>
    obtain ⟨m, count⟩ := entry
    obtain ⟨first, others⟩ := List.pairwise_cons.mp ordered
    unfold increment
    split
    · next less =>
      refine List.pairwise_cons.mpr ⟨?_, ordered⟩
      intro other member
      rcases List.mem_cons.mp member with rfl | behind
      · exact less
      · exact String.lt_trans less (first other behind)
    · split
      · exact List.pairwise_cons.mpr ⟨first, others⟩
      · next notLess notSame =>
        refine List.pairwise_cons.mpr ⟨?_, ih others⟩
        intro other member
        have named := (mem_names_increment name other.1 rest).mp (List.mem_map_of_mem member)
        rcases named with there | here
        · obtain ⟨known, behind, same⟩ := List.mem_map.mp there
          rw [← same]
          exact first known behind
        · rw [here]
          have atLeast : m ≤ name := String.not_lt.mp notLess
          exact Std.lt_of_le_of_ne atLeast fun same => notSame same.symm

theorem countOf_eq_zero {name : String} {counts : List (String × UInt64)}
    (absent : name ∉ counts.map Prod.fst) : countOf name counts = 0 := by
  induction counts with
  | nil => rfl
  | cons entry rest ih =>
    obtain ⟨m, count⟩ := entry
    rw [List.map_cons, List.mem_cons, not_or] at absent
    rw [countOf_cons, if_neg absent.1]
    exact ih absent.2

/-- Where names are in order, a name that is counted is found where it already stands. -/
theorem countOf_increment (name n : String) {counts : List (String × UInt64)}
    (ordered : counts.Pairwise fun a b => a.1 < b.1) :
    countOf n (increment name counts) = countOf n counts + if n = name then 1 else 0 := by
  induction counts with
  | nil =>
    rw [increment, countOf_cons]
    split <;> rfl
  | cons entry rest ih =>
    obtain ⟨m, count⟩ := entry
    obtain ⟨first, others⟩ := List.pairwise_cons.mp ordered
    unfold increment
    split
    · next less =>
      rw [countOf_cons]
      split
      · next here =>
        subst here
        -- All names behind are greater, so it has not been counted before.
        have absent : n ∉ ((m, count) :: rest).map Prod.fst := by
          intro member
          obtain ⟨known, there, same⟩ := List.mem_map.mp member
          rcases List.mem_cons.mp there with rfl | behind
          · exact String.lt_irrefl n (same ▸ less)
          · have greater := String.lt_trans less (first known behind)
            exact String.lt_irrefl n (same ▸ greater)
        rw [countOf_eq_zero absent, UInt64.zero_add]
      · rw [UInt64.add_zero]
    · split
      · next same =>
        subst same
        rw [countOf_cons, countOf_cons]
        split
        · rfl
        · rw [UInt64.add_zero]
      · next other =>
        rw [countOf_cons, countOf_cons, ih others]
        split
        · next here =>
          have apart : ¬n = name := fun same => other (same.symm.trans here)
          rw [if_neg apart, UInt64.add_zero]
        · rfl

theorem total_increment (name : String) {counts : List (String × UInt64)}
    (small : total counts + 1 < 2 ^ 64) : total (increment name counts) = total counts + 1 := by
  have one : (1 : UInt64).toNat = 1 := rfl
  induction counts with
  | nil => rfl
  | cons entry rest ih =>
    obtain ⟨m, count⟩ := entry
    rw [total_cons] at small
    unfold increment
    split
    · simp only [total_cons, one]
      omega
    · split
      · -- The count is part of the sum, so it cannot wrap.
        have next : (count + 1).toNat = count.toNat + 1 := by
          rw [UInt64.toNat_add, one, Nat.mod_eq_of_lt (by omega)]
        simp only [total_cons, next]
        omega
      · rw [total_cons, total_cons, ih (by omega)]
        omega

/-- Without a bound the sum goes up by one as a word does. -/
theorem total_increment_mod (name : String) (counts : List (String × UInt64)) :
    total (increment name counts) % 2 ^ 64 = (total counts + 1) % 2 ^ 64 := by
  have one : (1 : UInt64).toNat = 1 := rfl
  induction counts with
  | nil => rfl
  | cons entry rest ih =>
    obtain ⟨m, count⟩ := entry
    unfold increment
    split
    · simp only [total_cons, one]
      omega
    · split
      · have next : (count + 1).toNat = (count.toNat + 1) % 2 ^ 64 := UInt64.toNat_add count 1
        simp only [total_cons, next]
        omega
      · rw [total_cons, total_cons]
        omega

/-! ## Series -/

/-- What counts are after these names. -/
structure Counts (names : List String) (counts : List (String × UInt64)) : Prop where
  ordered : counts.Pairwise fun a b => a.1 < b.1
  named : ∀ name, name ∈ counts.map Prod.fst ↔ name ∈ names
  counted : ∀ name, countOf name counts = UInt64.ofNat (names.count name)
  total_eq : names.length < 2 ^ 64 → total counts = names.length

theorem counts_nil : Counts [] [] where
  ordered := List.Pairwise.nil
  named _ := Iff.rfl
  counted _ := rfl
  total_eq _ := rfl

theorem Counts.increment {names : List String} {counts : List (String × UInt64)}
    (before : Counts names counts) (name : String) :
    Counts (names ++ [name]) (increment name counts) where
  ordered := pairwise_increment name before.ordered
  named n := by
    rw [mem_names_increment, before.named, List.mem_append, List.mem_singleton]
  counted n := by
    rw [countOf_increment name n before.ordered, before.counted, List.count_append,
      UInt64.ofNat_add]
    congr 1
    by_cases here : n = name
    · simp [here]
    · have other : ¬name = n := fun same => here same.symm
      simp [here, other]
  total_eq := by
    intro small
    rw [List.length_append, List.length_singleton] at small
    have sum := before.total_eq (by omega)
    rw [total_increment name (by omega), sum, List.length_append, List.length_singleton]

theorem counts_foldl (names : List String) :
    Counts names (names.foldl (fun counts name => Metrics.increment name counts) []) := by
  induction names using List.reverseRecOn with
  | nil => exact counts_nil
  | append_singleton names name ih =>
    rw [List.foldl_append]
    exact ih.increment name

/-! ## Endings -/

theorem outcomes_foldl_count (endings : List Ending) (t : Tally) :
    (endings.foldl (fun t e => t.count e) t).outcomes =
      (endings.map Ending.outcome).foldl (fun counts name => Metrics.increment name counts)
        t.outcomes := by
  induction endings generalizing t with
  | nil => rfl
  | cons e rest ih => exact ih (t.count e)

theorem citations_foldl_count (endings : List Ending) (t : Tally) :
    (endings.foldl (fun t e => t.count e) t).citations =
      t.citations + UInt64.ofNat (endings.map Ending.cited).sum := by
  induction endings generalizing t with
  | nil => exact (UInt64.add_zero _).symm
  | cons e rest ih =>
    rw [List.foldl_cons, ih, List.map_cons, List.sum_cons, UInt64.ofNat_add, ← UInt64.add_assoc]
    rfl

end CitedAnswers.Metrics
