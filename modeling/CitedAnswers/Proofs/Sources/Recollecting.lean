import CitedAnswers.Proofs.Sources.Collecting
import CitedAnswers.Proofs.Sources.Starts

/-! # Collecting what was collected

Citations with a link each are collected as they are (`addAll_of_nodup`).  A citation that was
collected comes back from a passage made of it, because its start is read back from a marker; so
collecting a second time changes nothing (`collect_map_passage`).
-/

namespace CitedAnswers.Sources.Citation

theorem add_of_new {c : Citation} {citations : List Citation}
    (new : c.link ∉ citations.map link) : add c citations = citations ++ [c] := by
  induction citations with
  | nil => rfl
  | cons old rest ih =>
    rw [List.map_cons, List.mem_cons, not_or] at new
    rw [add, if_neg (Ne.symm new.1), ih new.2]
    rfl

theorem addAll_of_nodup {citations : List Citation} (distinct : (citations.map link).Nodup) :
    addAll [] citations = citations := by
  induction citations using List.reverseRecOn with
  | nil => rfl
  | append_singleton citations c ih =>
    rw [List.map_append, List.map_singleton] at distinct
    obtain ⟨before, -, apart⟩ := List.nodup_append'.mp distinct
    rw [addAll_concat, ih before]
    exact add_of_new fun seen => apart seen (List.mem_singleton_self _)

/-- A passage that shows a citation: its title, its link, and nothing but a marker. -/
def passage (c : Citation) : Passage where
  text := markerText c.seconds
  title := c.title
  link := some c.link

theorem ofPassage?_passage {c : Citation} (read : startSeconds (markerText c.seconds) = c.seconds) :
    ofPassage? c.passage = some c :=
  ofPassage?_eq_some.mpr ⟨rfl, rfl, read⟩

theorem filterMap_ofPassage?_passage {citations : List Citation}
    (read : ∀ c ∈ citations, startSeconds (markerText c.seconds) = c.seconds) :
    (citations.map passage).filterMap ofPassage? = citations := by
  induction citations with
  | nil => rfl
  | cons c rest ih =>
    obtain ⟨first, others⟩ := List.forall_mem_cons.mp read
    rw [List.map_cons, List.filterMap_cons_some (ofPassage?_passage first), ih others]

/-- The passages that show the citations of any passages have these citations again. -/
theorem collect_map_passage (passages : List Passage) :
    collect ((collect passages).map passage) = collect passages := by
  have read : ∀ c ∈ collect passages, startSeconds (markerText c.seconds) = c.seconds := by
    intro c member
    obtain ⟨p, -, -, started⟩ := (isLeast_seconds member).1
    exact startSeconds_markerText ((exists_startSeconds_iff c.seconds).mp ⟨p.text, started⟩)
  have again : collect ((collect passages).map passage) = addAll [] (collect passages) := by
    rw [collect, filterMap_ofPassage?_passage read]
  rw [again]
  exact addAll_of_nodup (nodup_map_link_addAll _)

/-- The greatest start there is comes back as it is. -/
example : startSeconds "[18446744073709551616.5 – x]" = 18446744073709551615 ∧
    startSeconds "[18446744073709551615 – x]" = 18446744073709551615 := by decide +kernel

end CitedAnswers.Sources.Citation
