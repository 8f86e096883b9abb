/-! # Association lists

Lists of keys with values, in the order in which the keys first came.  `put` gives a key a value in
the place of the one it has; core's `List.lookup` finds the value of a key.
-/

namespace CitedAnswers.Association

variable {α β : Type} [DecidableEq α]

/-- Gives a key a value: where the key stands, or else at the end. -/
def put (key : α) (value : β) : List (α × β) → List (α × β)
  | [] => [(key, value)]
  | (k, v) :: rest => if k = key then (k, value) :: rest else (k, v) :: put key value rest

theorem lookup_cons (k n : α) (v : β) (rest : List (α × β)) :
    List.lookup k ((n, v) :: rest) = if k = n then some v else rest.lookup k := by
  rw [List.lookup_cons]
  by_cases h : k = n
  · simp [h]
  · have hb : (k == n) = false := by simpa using h
    simp [h, hb]

/-- Giving a key a value changes the value of no other key. -/
theorem lookup_put (key k : α) (value : β) (l : List (α × β)) :
    (put key value l).lookup k = if k = key then some value else l.lookup k := by
  induction l with
  | nil => simp [put, lookup_cons]
  | cons entry rest ih =>
    obtain ⟨n, v⟩ := entry
    by_cases hn : n = key
    · subst hn
      by_cases hk : k = n <;> simp [put, lookup_cons, hk]
    · by_cases hk : k = n
      · subst hk
        simp [put, hn]
      · simp [put, lookup_cons, hn, hk, ih]

end CitedAnswers.Association
