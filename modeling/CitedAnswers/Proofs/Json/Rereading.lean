import CitedAnswers.Proofs.Json.Rendering

/-! # Values that were read and are written again

A value that was read, and whose numbers are whole, is read back from what is written for it as the
value it was (`readBack_of_readValue`): its whole numbers lie in the 64-bit ranges, and putting the
members of its objects in order changes nothing, because they stand in order already.
-/

namespace CitedAnswers.Json

open CitedAnswers.Number
open CitedAnswers.Text (Symbol symbols)

/-- Values whose numbers are all whole. -/
inductive IsIntegral : Json → Prop where
  | null : IsIntegral .null
  | bool (b : Bool) : IsIntegral (.bool b)
  | number (n : Int) : IsIntegral (.number (.whole n))
  | string (s : String) : IsIntegral (.string s)
  | array {items : List Json} (each : ∀ v ∈ items, IsIntegral v) : IsIntegral (.array items)
  | object {members : List (String × Json)} (each : ∀ member ∈ members, IsIntegral member.2) :
      IsIntegral (.object members)

/-! ## Numbers -/

theorem absorb_le {step : Int} {x : Scaled} (word : x.significand ≤ Binary.greatestWord)
    (ds : List Nat) : (Scaled.absorb step x ds).1.significand ≤ Binary.greatestWord := by
  induction ds generalizing x with
  | nil => exact word
  | cons d ds ih =>
    unfold Scaled.absorb
    dsimp only
    split
    · next fits => exact ih fits
    · exact word

theorem not_whole_of_finish {n : Numeral} {x : Scaled} {i : Int} :
    Numeral.value.finish n x ≠ .ok (.whole i) := by
  unfold Numeral.value.finish
  split <;> rintro ⟨⟩

/-- A whole number that was read lies in one of the 64-bit ranges. -/
theorem isInteger_of_value {n : Numeral} {i : Int} (value : n.value = .ok (.whole i)) :
    IsInteger i := by
  have word : (Scaled.absorb 0 ⟨0, 0⟩ n.integer).1.significand ≤ Binary.greatestWord :=
    absorb_le (Nat.zero_le _) n.integer
  unfold Numeral.value at value
  generalize Scaled.absorb 0 ⟨0, 0⟩ n.integer = absorbed at word value
  obtain ⟨whole, beyond⟩ := absorbed
  have ranges : leastMagnitude ≤ Binary.greatestWord := by decide
  dsimp only at word value
  -- Only digits without a point and an exponent that all fit make a whole number.
  split at value
  · split at value
    · cases value
      exact ⟨by omega, by omega⟩
    · split at value
      · cases value
      · next inRange =>
        cases value
        exact ⟨by omega, by omega⟩
  · split at value
    · exact absurd value not_whole_of_finish
    · split at value
      · split at value <;> cases value
      · exact absurd value not_whole_of_finish

theorem isInteger_of_readNumber {negative : Bool} {text rest : List Symbol} {i : Int}
    (read : readNumber negative text = .ok (.whole i, rest)) : IsInteger i := by
  unfold readNumber at read
  split at read
  · cases read
  · split at read
    · next value =>
      cases read
      exact isInteger_of_value value
    · cases read

/-! ## Objects -/

theorem insertMember_last {name : String} {v : Json} {members : List (String × Json)}
    (last : ∀ member ∈ members, member.1 < name) :
    insertMember name v members = members ++ [(name, v)] := by
  induction members with
  | nil => rfl
  | cons member members ih =>
    obtain ⟨n, w⟩ := member
    obtain ⟨less, others⟩ := List.forall_mem_cons.mp last
    unfold insertMember
    have apart : name ≠ n := fun same => String.lt_irrefl n (same ▸ less)
    rw [if_neg (String.lt_asymm less), if_neg apart, ih others, List.cons_append]

theorem mem_of_mem_insertMember {name : String} {v : Json} {members : List (String × Json)}
    {member : String × Json} (inside : member ∈ insertMember name v members) :
    member = (name, v) ∨ member ∈ members := by
  induction members with
  | nil => exact .inl (List.mem_singleton.mp inside)
  | cons first members ih =>
    obtain ⟨n, w⟩ := first
    unfold insertMember at inside
    split at inside
    · exact List.mem_cons.mp inside
    · split at inside
      · rcases List.mem_cons.mp inside with here | there
        · exact .inl here
        · exact .inr (List.mem_cons_of_mem _ there)
      · rcases List.mem_cons.mp inside with here | there
        · exact .inr (here ▸ List.mem_cons_self)
        · exact (ih there).imp_right (List.mem_cons_of_mem _)

/-- Members that stand in order are put where they are. -/
theorem foldlM_insertMember (read : Json → Option Json) (before : List (String × Json))
    {members : List (String × Json)}
    (ordered : (before ++ members).Pairwise fun a b => a.1 < b.1)
    (same : ∀ member ∈ members, read member.2 = some member.2) :
    members.foldlM (fun before (name, v) => (read v).map (insertMember name · before)) before =
      some (before ++ members) := by
  induction members generalizing before with
  | nil => simp
  | cons member members ih =>
    obtain ⟨name, v⟩ := member
    obtain ⟨here, others⟩ := List.forall_mem_cons.mp same
    have last : ∀ member ∈ before, member.1 < name :=
      fun member inside => (List.pairwise_append.mp ordered).2.2 member inside _ List.mem_cons_self
    -- All names that were put before are less, so the member comes last.
    have placed : (read v).map (insertMember name · before) = some (before ++ [(name, v)]) := by
      rw [here, Option.map_some, insertMember_last last]
    rw [List.append_cons] at ordered ⊢
    rw [List.foldlM_cons]
    dsimp only
    rw [placed]
    exact ih _ ordered others

/-! ## Values -/

/-- A value with whole numbers is read back as it was read. -/
theorem readBack_of_readValue {depth : Nat} {text rest : List Symbol} {v : Json}
    (read : readValue depth text = .ok (v, rest)) (integral : IsIntegral v) :
    readBack depth v = some v := by
  -- Items and members are read at a smaller depth, whatever text they stand in.
  induction depth using Nat.strongRecOn generalizing text rest v with
  | ind depth ih =>
    cases parts_of_readValue read with
    | null | bool | string => rw [readBack]
    | number digits =>
      cases integral
      rw [readBack, if_pos (isInteger_of_readNumber digits)]
    | @array depth _ _ items inside =>
      obtain - | - | - | - | each := integral
      have same := forall_of_readList (P := fun v => IsIntegral v → readBack depth v = some v)
        (ih depth (Nat.lt_succ_self depth)) inside
      have all : items.mapM (readBack depth) = some items :=
        mapM_eq_some_iff.mpr (List.forall₂_same.mpr fun v member => same v member (each v member))
      rw [readBack, all]
      rfl
    | @object depth _ _ members inside =>
      obtain - | - | - | - | - | each := integral
      have ordered : members.Pairwise fun a b => a.1 < b.1 := pairwise_of_readValue read
      have same := readObject_entries
        (P := fun members => ∀ member ∈ members,
          IsIntegral member.2 → readBack depth member.2 = some member.2) ?_
        (List.forall_mem_nil _) inside
      · have all := foldlM_insertMember (readBack depth) [] ordered
          fun member inside => same member inside (each member inside)
        rw [readBack, all]
        rfl
      · intro members name text v rest others value member inside integral
        rcases mem_of_mem_insertMember inside with rfl | there
        · exact ih depth (Nat.lt_succ_self depth) value integral
        · exact others member there integral

end CitedAnswers.Json
