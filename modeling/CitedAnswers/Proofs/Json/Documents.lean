import CitedAnswers.Json.Decoder

/-! # Documents that were read

A reader that succeeds has read each part of what it gives.  So what holds of every item holds of
all items of a list (`forall_of_readList`), and what holds of an empty object and is kept by every
member holds of an object that was read (`readObject_invariant`), likewise with the fields of a
record (`Record.finish_of_decoder`).  The members of a document stand in the order of their names,
each name once (`pairwise_of_parse`).
-/

namespace CitedAnswers.Json

open CitedAnswers.Text (Symbol)

/-! ## Parts of a reading -/

theorem ok_of_readDocument {α : Type} {read : List Symbol → Outcome α} {text : List Symbol} {a : α}
    (ok : readDocument read text = .ok a) : ∃ rest, read text = .ok (a, rest) := by
  unfold readDocument at ok
  split at ok
  · cases ok
  · next b rest whole =>
    split at ok
    · cases ok
      exact ⟨rest, whole⟩
    · cases ok

theorem ok_of_mapResult {α β : Type} {f : α → β} {outcome : Outcome α} {b : β} {rest : List Symbol}
    (ok : mapResult f outcome = .ok (b, rest)) : ∃ a, outcome = .ok (a, rest) ∧ f a = b := by
  unfold mapResult at ok
  split at ok
  · cases ok
  · next a left =>
    cases ok
    exact ⟨a, rfl, rfl⟩

theorem eq_of_literal {α : Type} {a b : α} {tail : List Char} {text rest : List Symbol}
    (ok : literal a tail text = .ok (b, rest)) : b = a := by
  unfold literal at ok
  split at ok
  · cases ok
  · cases ok
    rfl

theorem refuse_error {α : Type} (wanted : Wanted) (text : List Symbol) :
    ∃ e, (refuse wanted text : Except Failure α) = .error e := by
  have wrong (outcome : Outcome Found) :
      ∃ e, (refuse.wrong wanted outcome : Except Failure α) = .error e := by
    cases outcome <;> exact ⟨_, rfl⟩
  unfold refuse
  split
  · exact ⟨_, rfl⟩
  · repeat' split
    all_goals first | exact wrong _ | exact ⟨_, rfl⟩

section Lists

variable {α : Type} {item : List Symbol → Outcome α} {P : α → Prop}
  (each : ∀ {text a rest}, item text = .ok (a, rest) → P a)

include each

theorem forall_of_readItems {fuel : Nat} {text rest : List Symbol} {as : List α}
    (ok : readItems item fuel text = .ok (as, rest)) : ∀ a ∈ as, P a := by
  induction fuel generalizing text as with
  | zero => cases ok
  | succ fuel ih =>
    unfold readItems at ok
    split at ok
    · cases ok
    · next read =>
      have first := each read
      split at ok
      · cases ok
      · split at ok
        · cases ok
          exact List.forall_mem_singleton.mpr first
        · split at ok
          · split at ok
            · cases ok
            · split at ok
              · cases ok
              · split at ok
                · cases ok
                · next others =>
                  cases ok
                  exact List.forall_mem_cons.mpr ⟨first, ih others⟩
          · cases ok

/-- What holds of every item that is read holds of all items of a list. -/
theorem forall_of_readList {text rest : List Symbol} {as : List α}
    (ok : readList item text = .ok (as, rest)) : ∀ a ∈ as, P a := by
  unfold readList at ok
  split at ok
  · cases ok
  · split at ok
    · cases ok
      exact List.forall_mem_nil P
    · exact forall_of_readItems each ok

end Lists

theorem forall_of_list {α : Type} {d : Decoder α} {P : α → Prop}
    (each : ∀ {depth text a rest}, d depth text = .ok (a, rest) → P a) {depth : Nat}
    {text rest : List Symbol} {as : List α} (ok : Decoder.list d depth text = .ok (as, rest)) :
    ∀ a ∈ as, P a := by
  unfold Decoder.list at ok
  split at ok
  · cases ok
  · split at ok
    · cases depth with
      | zero => cases ok
      | succ depth => exact forall_of_readList each ok
    · obtain ⟨e, refused⟩ := refuse_error .sequence _
      cases refused.symm.trans ok

section Objects

variable {σ : Type} {member : σ → String → List Symbol → Outcome σ} {P : σ → Prop}
  (kept : ∀ {gathered name text gathered' rest}, P gathered →
    member gathered name text = .ok (gathered', rest) → P gathered')

include kept

theorem readMembers_invariant {fuel : Nat} {gathered gathered' : σ} {text rest : List Symbol}
    (before : P gathered) (ok : readMembers member fuel gathered text = .ok (gathered', rest)) :
    P gathered' := by
  induction fuel generalizing gathered text with
  | zero => cases ok
  | succ fuel ih =>
    unfold readMembers at ok
    split at ok
    · cases ok
    · split at ok
      · cases ok
      · next read =>
        have after := kept before read
        split at ok
        · cases ok
        · split at ok
          · cases ok
            exact after
          · split at ok
            · split at ok
              · cases ok
              · split at ok
                · exact ih after ok
                · split at ok <;> cases ok
            · cases ok

/-- What holds of an object without members and is kept by every member holds of one that was
read. -/
theorem readObject_invariant {start gathered : σ} {text rest : List Symbol} (before : P start)
    (ok : readObject member start text = .ok (gathered, rest)) : P gathered := by
  unfold readObject at ok
  split at ok
  · cases ok
  · split at ok
    · cases ok
      exact before
    · split at ok
      · exact readMembers_invariant kept before ok
      · cases ok

end Objects

/-! ## Records -/

namespace Record

variable {σ α : Type} {r : Record σ α} {P : σ → Prop}
  (kept : ∀ f ∈ r.fields, ∀ {depth gathered text gathered' rest}, P gathered →
    f.read depth gathered text = .ok (gathered', rest) → P gathered')

include kept

theorem readMember_invariant {depth : Nat} {name : String} {gathered gathered' : σ}
    {text rest : List Symbol} (before : P gathered)
    (ok : r.readMember depth gathered name text = .ok (gathered', rest)) : P gathered' := by
  unfold readMember at ok
  split at ok
  · next f field =>
    split at ok
    · cases ok
    · split at ok
      · cases ok
      · exact kept f (List.mem_of_find?_eq_some field) before ok
  · split at ok
    · cases ok
    · split at ok
      · cases ok
      · cases ok
        exact before

theorem readFields_invariant {depth : Nat} {fs : List (Field σ)} (known : ∀ f ∈ fs, f ∈ r.fields)
    {index : Nat} {first : Bool} {gathered gathered' : σ} {text rest : List Symbol}
    (before : P gathered)
    (ok : r.readFields depth fs index first gathered text = .ok (gathered', rest)) :
    P gathered' := by
  induction fs generalizing index first gathered text with
  | nil =>
    unfold readFields at ok
    split at ok
    · cases ok
    · cases ok
      exact before
  | cons f fs ih =>
    obtain ⟨here, others⟩ := List.forall_mem_cons.mp known
    unfold readFields at ok
    split at ok
    · cases ok
    · split at ok
      · cases ok
      · next read => exact ih others (kept f here before read) ok
    · split at ok
      · exact ih others before ok
      · split at ok <;> cases ok

/-- A record that was decoded was made of fields that were read. -/
theorem finish_of_decoder {depth : Nat} {text rest : List Symbol} {a : α} (start : P r.start)
    (ok : r.decoder depth text = .ok (a, rest)) : ∃ g, P g ∧ r.finish g = .ok a := by
  have concluded {g : σ} {left : List Symbol} (holds : P g)
      (ok : r.conclude g left = .ok (a, rest)) : ∃ g, P g ∧ r.finish g = .ok a := by
    unfold conclude at ok
    split at ok
    · next finished =>
      cases ok
      exact ⟨g, holds, finished⟩
    · cases ok
  unfold decoder at ok
  split at ok
  · cases ok
  · split at ok
    · cases depth with
      | zero => cases ok
      | succ depth =>
        dsimp only at ok
        split at ok
        · cases ok
        · next read =>
          exact concluded (readFields_invariant kept (fun _ member => member) start read) ok
    · split at ok
      · cases depth with
        | zero => cases ok
        | succ depth =>
          dsimp only at ok
          split at ok
          · cases ok
          · next read =>
            exact concluded (readObject_invariant (readMember_invariant kept) start read) ok
      · obtain ⟨e, refused⟩ := refuse_error (.record r.name) _
        cases refused.symm.trans ok

end Record

/-! ## Names of members -/

theorem mem_names_insertMember (name n : String) (value : Json) (members : List (String × Json)) :
    n ∈ (insertMember name value members).map Prod.fst ↔
      n ∈ members.map Prod.fst ∨ n = name := by
  induction members with
  | nil => simp [insertMember]
  | cons entry rest ih =>
    obtain ⟨m, v⟩ := entry
    unfold insertMember
    split
    · simp only [List.map_cons, List.mem_cons]
      exact or_comm
    · split
      · next same => simp [same, or_comm]
      · simp only [List.map_cons, List.mem_cons, ih, or_assoc]

theorem pairwise_insertMember (name : String) (value : Json) {members : List (String × Json)}
    (ordered : members.Pairwise fun a b => a.1 < b.1) :
    (insertMember name value members).Pairwise fun a b => a.1 < b.1 := by
  induction members with
  | nil => exact List.pairwise_singleton _ _
  | cons entry rest ih =>
    obtain ⟨m, v⟩ := entry
    obtain ⟨first, others⟩ := List.pairwise_cons.mp ordered
    unfold insertMember
    split
    · next less =>
      refine List.pairwise_cons.mpr ⟨?_, ordered⟩
      intro other member
      rcases List.mem_cons.mp member with rfl | behind
      · exact less
      · exact String.lt_trans less (first other behind)
    · split
      · next same =>
        refine List.pairwise_cons.mpr ⟨?_, others⟩
        rw [same]
        exact first
      · next notLess notSame =>
        refine List.pairwise_cons.mpr ⟨?_, ih others⟩
        intro other member
        have named := (mem_names_insertMember name other.1 value rest).mp
          (List.mem_map_of_mem member)
        rcases named with there | here
        · obtain ⟨known, behind, same⟩ := List.mem_map.mp there
          rw [← same]
          exact first known behind
        · rw [here]
          have atLeast : m ≤ name := String.not_lt.mp notLess
          exact Std.lt_of_le_of_ne atLeast fun same => notSame same.symm

/-! ## Values -/

/-- Reads a member into an object behind its name. -/
def readEntry (depth : Nat) (members : List (String × Json)) (name : String)
    (text : List Symbol) : Outcome (List (String × Json)) :=
  match readColon text with
  | .error e => .error e
  | .ok text => mapResult (insertMember name · members) (readValue depth text)

/-- What was read where a value was read. -/
inductive Parts : (depth : Nat) → Json → Prop where
  | null {depth : Nat} : Parts depth .null
  | bool {depth : Nat} (b : Bool) : Parts depth (.bool b)
  | number {depth : Nat} {negative : Bool} {text rest : List Symbol} {n : Numeric}
      (read : readNumber negative text = .ok (n, rest)) : Parts depth (.number n)
  | string {depth : Nat} (s : String) : Parts depth (.string s)
  | array {depth : Nat} {text rest : List Symbol} {items : List Json}
      (read : readList (readValue depth) text = .ok (items, rest)) :
      Parts (depth + 1) (.array items)
  | object {depth : Nat} {text rest : List Symbol} {members : List (String × Json)}
      (read : readObject (readEntry depth) [] text = .ok (members, rest)) :
      Parts (depth + 1) (.object members)

theorem parts_of_readValue {depth : Nat} {text rest : List Symbol} {v : Json}
    (ok : readValue depth text = .ok (v, rest)) : Parts depth v := by
  unfold readValue at ok
  -- One branch for each kind of value.
  split at ok
  · cases ok
  · split at ok
    · cases eq_of_literal ok
      exact .null
    · split at ok
      · cases eq_of_literal ok
        exact .bool true
      · split at ok
        · cases eq_of_literal ok
          exact .bool false
        · split at ok
          · obtain ⟨_, read, rfl⟩ := ok_of_mapResult ok
            exact .number read
          · split at ok
            · obtain ⟨_, read, rfl⟩ := ok_of_mapResult ok
              exact .number read
            · split at ok
              · obtain ⟨s, -, rfl⟩ := ok_of_mapResult ok
                exact .string s
              · split at ok
                · cases depth with
                  | zero => cases ok
                  | succ depth =>
                    obtain ⟨_, read, rfl⟩ := ok_of_mapResult ok
                    exact .array read
                · split at ok
                  · cases depth with
                    | zero => cases ok
                    | succ depth =>
                      obtain ⟨_, read, rfl⟩ := ok_of_mapResult ok
                      exact .object read
                  · cases ok

/-- What is kept by a member with any value that was read holds of an object that was read. -/
theorem readObject_entries {depth : Nat} {P : List (String × Json) → Prop}
    (kept : ∀ {members name text v rest}, P members → readValue depth text = .ok (v, rest) →
      P (insertMember name v members))
    (start : P []) {members : List (String × Json)} {text rest : List Symbol}
    (ok : readObject (readEntry depth) [] text = .ok (members, rest)) : P members := by
  refine readObject_invariant ?_ start ok
  intro before name text after rest holds read
  unfold readEntry at read
  split at read
  · cases read
  · obtain ⟨v, value, rfl⟩ := ok_of_mapResult read
    exact kept holds value

/-- The members of an object that was read stand in the order of their names. -/
theorem pairwise_of_readValue {depth : Nat} {text rest : List Symbol}
    {members : List (String × Json)}
    (ok : readValue depth text = .ok (.object members, rest)) :
    members.Pairwise fun a b => a.1 < b.1 := by
  cases parts_of_readValue ok with
  | object read =>
    exact readObject_entries (fun ordered _ => pairwise_insertMember _ _ ordered) .nil read

theorem pairwise_of_parse {text : String} {members : List (String × Json)}
    (ok : parse text = .ok (.object members)) : members.Pairwise fun a b => a.1 < b.1 := by
  obtain ⟨rest, read⟩ := ok_of_readDocument ok
  exact pairwise_of_readValue read

end CitedAnswers.Json
