import CitedAnswers.Proofs.Answering.Ways
import CitedAnswers.Proofs.Json.Rereading
import CitedAnswers.Proofs.Remote.Refinement

/-! # Entities on their way to the anonymizer

What was found in a text is sent on as it was replied, next to the text (`entities_are_sent`).  The
reply is read and written again on the way: its values are read back as they are, as long as their
numbers are whole, and two more levels around them do not matter to the grammar.
-/

namespace CitedAnswers.Remote

open CitedAnswers.Answering
open CitedAnswers.Json
open CitedAnswers.Text (Charsets Symbol symbols)

/-! ## The reply -/

theorem readValue_of_list {depth : Nat} {text rest : List Symbol} {items : List Json}
    (ok : Decoder.list Decoder.value depth text = .ok (items, rest)) :
    readValue depth text = .ok (.array items, rest) := by
  unfold Decoder.list at ok
  split at ok
  · cases ok
  · next s left first =>
    split at ok
    · next bracket =>
      subst bracket
      cases depth with
      | zero => cases ok
      | succ depth =>
        have inner : readList (readValue depth) left = .ok (items, rest) := ok
        have noDigit : digit? (.char '[') = none := rfl
        unfold readValue
        simp [first, noDigit, inner, mapResult]
    · obtain ⟨e, refused⟩ := refuse_error .sequence _
      cases refused.symm.trans ok

/-- A list of entities is decoded from the list that a value reader reads. -/
theorem read_of_entities {body : List Symbol} {entities : List Json}
    (decoded : entitiesDecoder.run body = .ok entities) :
    readDocument (readValue depthLimit) body = .ok (.array entities) := by
  unfold Decoder.run readDocument at decoded
  split at decoded
  · cases decoded
  · next read =>
    split at decoded
    · next ends =>
      cases decoded
      unfold readDocument
      rw [readValue_of_list read]
      simp only [ends]
    · cases decoded

/-! ## The calls -/

theorem calls_of_redact {σ : Type} {services : Services σ} {text language : String}
    {memory left : σ} {entities : List Json}
    (replied : services (.analyze text language) memory = (.ok entities, left))
    (found : entities ≠ []) :
    ((redact language text).run services memory).calls =
      [.analyze text language, .anonymize text entities] := by
  generalize run : (redact language text).run services memory = course
  obtain ⟨result, exchanges, behind⟩ := course
  obtain ⟨runs, served⟩ := Dialogue.run_eq_iff.mp run
  cases redact_runs.mp runs with
  | unanalyzed error =>
    obtain ⟨reply, -⟩ := served
    cases (congrArg Prod.fst replied).symm.trans reply
  | clean =>
    obtain ⟨reply, -⟩ := served
    cases (congrArg Prod.fst replied).symm.trans reply
    exact absurd rfl found
  | replaced others _ reply =>
    obtain ⟨reply, -⟩ := served
    cases (congrArg Prod.fst replied).symm.trans reply
    rfl

/-! ## The document -/

/-- The document that asks to anonymize a text has the text and what was found in it. -/
theorem isDocument_anonymization_iff {text : String} {entities : List Json} {depth : Nat}
    (back : readBack depth (.array entities) = some (.array entities)) {v : Json} :
    IsDocument (anonymizationDocument text entities).render.toList v ↔
      v = .object [("analyzer_results", .array entities), ("text", .string text)] := by
  -- The text is written first, and a value has its members in the order of their names.
  have order : "analyzer_results" < "text" := by decide
  have document : readBack (depth + 1) (anonymizationDocument text entities) =
      some (.object [("analyzer_results", .array entities), ("text", .string text)]) := by
    simp only [anonymizationDocument, readBack, List.foldlM_cons, List.foldlM_nil, back,
      Option.map_some, Option.bind_eq_bind, Option.bind_some, Option.pure_def, insertMember,
      if_pos order]
  obtain ⟨tree, lays, value⟩ := lays_of_readBack document
  have here : IsDocument (anonymizationDocument text entities).render.toList _ :=
    isDocument_of_lays (by simpa [render] using lays) ⟨_, value⟩
  constructor
  · intro other
    exact other.unique here
  · rintro rfl
    exact here

/-- What was found in a text is sent on as it was replied: the anonymizer is asked with one
document, whose members are the text and the list of the reply. -/
theorem entities_are_sent {σ : Type} (charsets : Charsets) {a : Accounts}
    {transport : Transport σ} {memory left : σ} {text language : String} {posting : Posting}
    {r : Reply} {entities : List Json}
    (posted : a.posting? (.analyze text language) = some posting)
    (replied : transport posting memory = (some r, left))
    (served : 200 ≤ r.status ∧ r.status ≤ 299)
    (decoded : entitiesDecoder.run (Text.decode r.body) = .ok entities)
    (found : entities ≠ []) (integral : ∀ e ∈ entities, IsIntegral e) :
    (∀ body v, Text.decode r.body = symbols body → IsDocument body v → v = .array entities) ∧
    ∃ sent, a.posting? (.anonymize text entities) = some sent ∧
      ((redact language text).run (services charsets a transport.recording)
          (memory, [])).memory.2.map Delivery.posting = [posting, sent] ∧
      ∀ v, IsDocument sent.body.toList v ↔
        v = .object [("analyzer_results", .array entities), ("text", .string text)] := by
  have read := read_of_entities decoded
  constructor
  · intro body v same document
    rw [same] at read
    exact document.eq_of_read read
  obtain ⟨sent, handed⟩ : ∃ sent, a.posting? (.anonymize text entities) = some sent := ⟨_, rfl⟩
  have recorded : transport.recording posting (memory, []) =
      (some r, left, [⟨posting, some r⟩]) := by
    simp [Transport.recording, replied]
  have value : decoded? (.analyze text language) (Text.decode r.body) = some entities := by
    rw [decoded?, decoded]
    rfl
  have calls := calls_of_redact (services_of_decoded charsets posted recorded served value) found
  refine ⟨sent, handed, ?_, fun v => ?_⟩
  · have postings := postings_of_run charsets a transport (redact language text) memory []
    dsimp only at postings
    rw [calls] at postings
    simpa [posted, handed] using postings
  · obtain ⟨rest, read⟩ := ok_of_readDocument read
    rw [body_of_make? handed]
    exact isDocument_anonymization_iff (readBack_of_readValue read (.array integral))

/-- An object with its members out of order and integers at both limits. -/
def nestedEntities : String :=
  "[\x7b\"b\":[18446744073709551615,-9223372036854775808],\"a\":\"\\\"\"\x7d]"

/-- The value of that object, with its members in order. -/
def nestedValue : Json :=
  .object [("a", .string "\""), ("b", .array [.number (.whole 18446744073709551615),
    .number (.whole (-9223372036854775808))])]

theorem nestedEntities_are_sent :
    ∃ first sent,
      ((redact "en" "t").run
        (services .utf8Only someAccounts (always (replyOf nestedEntities)).recording)
        ((), [])).memory.2.map Delivery.posting = [first, sent] ∧
      IsDocument sent.body.toList
        (.object [("analyzer_results", .array [nestedValue]), ("text", .string "t")]) := by
  have posted : someAccounts.posting? (.analyze "t" "en") = some _ := rfl
  have replied (posting : Posting) :
      always (replyOf nestedEntities) posting () = (some (replyOf nestedEntities), ()) := rfl
  have body : Text.decode (replyOf nestedEntities).body = symbols nestedEntities.toList := by
    decide +kernel
  have decoded : entitiesDecoder.run (Text.decode (replyOf nestedEntities).body) =
      .ok [nestedValue] := by
    rw [body]
    cbv
  have integral : ∀ e ∈ [nestedValue], IsIntegral e := by
    simp [nestedValue, IsIntegral.string, IsIntegral.number, IsIntegral.array, IsIntegral.object]
  obtain ⟨-, sent, -, postings, document⟩ :=
    entities_are_sent .utf8Only posted (replied _) (by decide) decoded (by decide) integral
  exact ⟨_, sent, postings, (document _).mpr rfl⟩

end CitedAnswers.Remote
