import CitedAnswers.Http.Access

/-! # Who has access

The beginning of a bearer token is cut off before anything is compared, whatever the secret is.  A
field that begins so is therefore never compared as a whole, and a secret that begins so itself is
accepted as a token only, not as it stands (`isAuthorized_iff`).
-/

namespace CitedAnswers.Http

/-- A secret that begins as a bearer token does. -/
def BeginsAsBearer (secret : String) : Prop :=
  ∃ rest, secret = bearer ++ rest

theorem behind?_bearer_eq_some_iff {field rest : String} :
    Text.behind? bearer.toList field.toList = some rest.toList ↔ field = bearer ++ rest := by
  rw [Text.behind?_eq_some_iff, ← String.toList_append, String.toList_inj]

theorem token_bearer (rest : String) : token (bearer ++ rest) = rest.toList := by
  rw [token, behind?_bearer_eq_some_iff.mpr rfl, Option.getD_some]

theorem token_of_not_beginsAsBearer {field : String} (plain : ¬BeginsAsBearer field) :
    token field = field.toList := by
  have none : Text.behind? bearer.toList field.toList = none := by
    rw [Option.eq_none_iff_forall_ne_some]
    intro rest behind
    apply plain
    exact ⟨String.ofList rest,
      behind?_bearer_eq_some_iff.mp (by rw [behind, String.toList_ofList])⟩
  rw [token, none, Option.getD_none]

/-- The secret is accepted behind `Bearer `, and as it stands unless it begins so itself. -/
theorem isAuthorized_some_iff {secret field : String} :
    isAuthorized (some secret) (some field) = true ↔
      field = bearer ++ secret ∨ field = secret ∧ ¬BeginsAsBearer secret := by
  rw [isAuthorized, beq_iff_eq]
  by_cases begins : BeginsAsBearer field
  · obtain ⟨rest, rfl⟩ := begins
    -- The rest of the field is what is compared, so the field is not accepted for itself.
    rw [token_bearer, String.toList_inj, String.append_right_inj]
    constructor
    · intro same
      exact .inl same
    · rintro (same | ⟨rfl, plain⟩)
      · exact same
      · exact absurd ⟨rest, rfl⟩ plain
  · rw [token_of_not_beginsAsBearer begins, String.toList_inj]
    constructor
    · rintro rfl
      exact .inr ⟨rfl, begins⟩
    · rintro (rfl | ⟨same, -⟩)
      · exact absurd ⟨secret, rfl⟩ begins
      · exact same

theorem ne_bearer_append (secret : String) : secret ≠ bearer ++ secret := by
  intro same
  have lengths := congrArg String.length same
  rw [String.length_append] at lengths
  have : bearer.length = 7 := rfl
  omega

/-- Nothing but the secret is ever accepted, as it stands or behind `Bearer `; both are accepted
exactly where the secret does not begin with `Bearer ` itself. -/
theorem isAuthorized_iff (secret : String) :
    (∀ field, isAuthorized (some secret) (some field) = true ↔
      field = bearer ++ secret ∨ field = secret ∧ ¬BeginsAsBearer secret) ∧
    ((∀ field, isAuthorized (some secret) (some field) = true ↔
      field = secret ∨ field = bearer ++ secret) ↔ ¬BeginsAsBearer secret) := by
  refine ⟨fun field => isAuthorized_some_iff, ?_, ?_⟩
  · intro both
    have bare := isAuthorized_some_iff.mp ((both secret).mpr (.inl rfl))
    rcases bare with behind | ⟨-, plain⟩
    · exact absurd behind (ne_bearer_append secret)
    · exact plain
  · intro plain field
    rw [isAuthorized_some_iff]
    constructor
    · rintro (token | ⟨bare, -⟩)
      · exact .inr token
      · exact .inl bare
    · rintro (bare | token)
      · exact .inr ⟨bare, plain⟩
      · exact .inl token

theorem isAuthorized_iff_bearer_secret :
    isAuthorized (some "Bearer k") (some "Bearer k") = false ∧
      ¬∀ field, isAuthorized (some "Bearer k") (some field) = true ↔
        field = "Bearer k" ∨ field = bearer ++ "Bearer k" := by
  obtain ⟨-, both⟩ := isAuthorized_iff "Bearer k"
  have begins : BeginsAsBearer "Bearer k" := ⟨"k", rfl⟩
  exact ⟨by decide, fun always => both.mp always begins⟩

end CitedAnswers.Http
