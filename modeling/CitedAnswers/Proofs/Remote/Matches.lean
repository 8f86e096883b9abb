import CitedAnswers.Proofs.Remote.Refinement
import CitedAnswers.Proofs.Remote.Shapes
import CitedAnswers.Proofs.Sources.Metadata

/-! # What becomes of matches

A reply with matches that was served makes one passage of each match, whatever its metadata are
(`passages_of_matches`).  The context has a text for each of them, if only an empty one; citations
are made of those alone that have a link.
-/

namespace CitedAnswers.Remote

open CitedAnswers.Json (Tree Lays IsBlank)
open CitedAnswers.Number (Binary32)
open CitedAnswers.Sources
open CitedAnswers.Text (Charsets symbols)

/-- The matches of a reply that was served become passages, one for each and in order.  A match
that tells no text adds an empty one to the context, and a match that tells no link is not cited. -/
theorem passages_of_matches {σ : Type} (charsets : Charsets) {a : Accounts}
    {vector : List Binary32} {topK : Nat} {posting : Posting} {transport : Transport σ}
    {memory left : σ} {r : Reply} {metadata : List Json}
    (posted : a.posting? (.query vector topK) = some posting)
    (replied : transport posting memory = (some r, left))
    (served : 200 ≤ r.status ∧ r.status ≤ 299)
    (decoded : matchesDecoder.run (Text.decode r.body) = .ok metadata) :
    (∀ before text after tree, Text.decode r.body = symbols (before ++ text ++ after) →
      IsBlank before → Lays text tree → IsBlank after →
        ∀ all, AreMatches tree all ↔ all = metadata) ∧
    ∃ passages,
      services charsets a transport (.query vector topK) memory = (.ok passages, left) ∧
      List.Forall₂ Shows metadata passages ∧
      (∃ texts, List.Forall₂ (Told "text" "") metadata texts ∧
        context passages = "\n\n---\n\n".intercalate texts) ∧
      (∀ l, (∃ c ∈ Citation.collect passages, c.link = l) ↔
        l ≠ "" ∧ ∃ m ∈ metadata, HasText "Link" m l) ∧
      ∀ c, c ∈ Citation.collect passages ↔ CitedBy metadata c := by
  constructor
  · intro before text after tree body front lays back all
    rw [body] at decoded
    exact areMatches_iff_eq front lays back decoded
  refine ⟨metadata.map .ofMetadata, ?_, ?_, ⟨_, ?_, rfl⟩, fun l => ?_, ?_⟩
  · have value : decoded? (.query vector topK) (Text.decode r.body) =
        some (metadata.map Passage.ofMetadata) := by
      rw [decoded?, decoded]
      rfl
    exact services_of_decoded charsets posted replied served value
  · exact List.forall₂_map_right_iff.mpr (List.forall₂_same.mpr fun m _ => shows_ofMetadata m)
  · rw [List.map_map]
    exact List.forall₂_map_right_iff.mpr
      (List.forall₂_same.mpr fun m _ => (shows_ofMetadata m).text)
  · rw [Citation.exists_mem_collect_iff]
    simp [(shows_ofMetadata _).link, and_left_comm]
  · exact mem_collect_iff_citedBy metadata

/-- A match that is cited, one without metadata, and one with metadata that are a list. -/
def mixedMatches : String :=
  "\x7b\"matches\":[\x7b\"metadata\":\x7b\"Link\":\"l\"\x7d\x7d,\x7b\x7d,\x7b\"metadata\":[1]\x7d]\x7d"

theorem passages_of_mixedMatches :
    ∃ passages,
      services .utf8Only someAccounts (always (replyOf mixedMatches)) (.query [] 3) () =
        (.ok passages, ()) ∧
      passages.length = 3 ∧ ∃ c ∈ Citation.collect passages, c.link = "l" := by
  have posted : someAccounts.posting? (.query [] 3) = some _ := rfl
  have replied (posting : Posting) :
      always (replyOf mixedMatches) posting () = (some (replyOf mixedMatches), ()) := rfl
  have body : Text.decode (replyOf mixedMatches).body = symbols mixedMatches.toList := by
    decide +kernel
  have decoded : matchesDecoder.run (Text.decode (replyOf mixedMatches).body) =
      .ok [.object [("Link", .string "l")], .null, .array [.number (.whole 1)]] := by
    rw [body]
    cbv
  obtain ⟨-, passages, ok, each, -, cited, -⟩ :=
    passages_of_matches .utf8Only posted (replied _) (by decide) decoded
  have linked : HasText "Link" (.object [("Link", .string "l")]) "l" := .member rfl
  exact ⟨passages, ok, each.length_eq.symm,
    (cited "l").mpr ⟨by decide, _, List.mem_cons_self, linked⟩⟩

end CitedAnswers.Remote
