import CitedAnswers.Proofs.Sources.Collecting

/-! # Merging what was collected

What is collected of more passages can be merged into what was collected before: a video that is
cited already takes an earlier start over, with its title, and new videos follow in their order
(`merge`).  One more citation may be added before or after merging (`add_merge`), so that passages
that are collected in two parts have the merged citations of the parts (`collect_append`).

Lists of citations are compared by their links and by the entry of each link, as in collecting;
without a link twice nothing else is to them (`eq_of_entries`).
-/

namespace CitedAnswers.Sources.Citation

/-! ## Merging -/

/-- A citation that takes the title and the start of another one, if that starts earlier. -/
def advanced (old new : Citation) : Citation :=
  if new.seconds < old.seconds then { old with title := new.title, seconds := new.seconds } else old

/-- The first citations, each advanced by the second one of its link, and then those of the second
that have other links. -/
def merge (first second : List Citation) : List Citation :=
  first.map (fun c => (entryOf? c.link second).elim c (advanced c)) ++
    second.filter fun c => c.link ∉ first.map link

theorem link_advanced (old new : Citation) : (advanced old new).link = old.link := by
  unfold advanced
  split <;> rfl

theorem seconds_advanced_le (old new : Citation) : (advanced old new).seconds ≤ old.seconds := by
  unfold advanced
  split
  · next less => exact Nat.le_of_lt less
  · exact Nat.le_refl _

theorem advanced_eq_earlier {old new : Citation} (same : new.link = old.link) :
    advanced old new = earlier old new := by
  unfold advanced earlier
  rw [← same]

theorem earlier_assoc (a b c : Citation) : earlier (earlier a b) c = earlier a (earlier b c) := by
  by_cases left : b.seconds < a.seconds
  · by_cases right : c.seconds < b.seconds
    · simp [earlier, left, right, Nat.lt_trans right left]
    · simp [earlier, left, right]
  · by_cases right : c.seconds < b.seconds
    · simp [earlier, left, right]
    · have last : ¬c.seconds < a.seconds := by omega
      simp [earlier, left, right, last]

/-! ## Links and entries -/

theorem link_elim_advanced (c : Citation) (new : Option Citation) :
    (new.elim c (advanced c)).link = c.link := by
  cases new with
  | none => rfl
  | some new => exact link_advanced c new

theorem map_link_merge (first second : List Citation) :
    (merge first second).map link =
      first.map link ++ (second.map link).filter fun l => l ∉ first.map link := by
  rw [merge, List.map_append, List.map_map, List.filter_map]
  congr 1
  exact List.map_congr_left fun c _ => link_elim_advanced c _

theorem nodup_map_link_merge {first second : List Citation} (distinct : (first.map link).Nodup)
    (distinct' : (second.map link).Nodup) : ((merge first second).map link).Nodup := by
  rw [map_link_merge]
  refine List.nodup_append'.mpr ⟨distinct, distinct'.filter _, ?_⟩
  intro l known new
  have unknown := List.of_mem_filter new
  exact of_decide_eq_true unknown known

theorem link_of_entryOf? {l : String} {citations : List Citation} {c : Citation}
    (found : entryOf? l citations = some c) : c.link = l := by
  simpa using List.find?_some found

theorem entryOf?_append (l : String) (first second : List Citation) :
    entryOf? l (first ++ second) = (entryOf? l first).or (entryOf? l second) :=
  List.find?_append

theorem entryOf?_map {change : Citation → Citation} (kept : ∀ c, (change c).link = c.link)
    (l : String) (citations : List Citation) :
    entryOf? l (citations.map change) = (entryOf? l citations).map change := by
  induction citations with
  | nil => rfl
  | cons c rest ih =>
    rw [List.map_cons, entryOf?_cons, entryOf?_cons, kept, ih]
    split <;> rfl

theorem entryOf?_eq_none_iff {l : String} {citations : List Citation} :
    entryOf? l citations = none ↔ l ∉ citations.map link := by
  rw [entryOf?, List.find?_eq_none, List.mem_map]
  simp

theorem entryOf?_filter {l : String} {known : List String} (new : l ∉ known)
    (citations : List Citation) :
    entryOf? l (citations.filter fun c => c.link ∉ known) = entryOf? l citations := by
  rw [entryOf?, List.find?_filter]
  congr 1
  funext c
  by_cases here : c.link = l
  · simp [here, new]
  · simp [here]

/-- A link has the earlier of its two entries; of two with the same start, the first one. -/
theorem entryOf?_merge (l : String) (first second : List Citation) :
    entryOf? l (merge first second) =
      (entryOf? l first).elim (entryOf? l second) fun old =>
        some ((entryOf? l second).elim old (earlier old)) := by
  rw [merge, entryOf?_append, entryOf?_map fun c => link_elim_advanced c _]
  cases here : entryOf? l first with
  | none =>
    rw [Option.map_none, Option.none_or, Option.elim_none,
      entryOf?_filter (entryOf?_eq_none_iff.mp here)]
  | some old =>
    rw [Option.map_some, Option.some_or, Option.elim_some, link_of_entryOf? here]
    cases there : entryOf? l second with
    | none => rfl
    | some new =>
      have same : new.link = old.link :=
        (link_of_entryOf? there).trans (link_of_entryOf? here).symm
      exact congrArg some (advanced_eq_earlier same)

/-- Without a link twice, citations are told by their links and the entry of each link. -/
theorem eq_of_entries {one other : List Citation} (distinct : (one.map link).Nodup)
    (links : one.map link = other.map link)
    (entries : ∀ l, entryOf? l one = entryOf? l other) : one = other := by
  refine eq_of_map_eq link links fun c member d member' same => ?_
  have entry := entryOf?_eq_some distinct member
  have entry' := entryOf?_eq_some (links ▸ distinct) member'
  rw [entries, same, entry'] at entry
  exact (Option.some.inj entry).symm

/-! ## Adding to merged citations -/

/-- Where links are new only once, a link is added to both lists or to the end of both. -/
theorem map_link_add_merge (c : Citation) (first second : List Citation) :
    (add c (merge first second)).map link = (merge first (add c second)).map link := by
  rw [map_link_add, map_link_merge, map_link_merge, map_link_add]
  by_cases known : c.link ∈ first.map link
  · rw [if_pos (List.mem_append_left _ known)]
    split
    · rfl
    · rw [List.filter_append, List.filter_singleton]
      simp [known]
  · have seen : (c.link ∈ first.map link ++ (second.map link).filter fun l => l ∉ first.map link) ↔
        c.link ∈ second.map link := by
      rw [List.mem_append, List.mem_filter, decide_eq_true_iff]
      exact ⟨fun either => (either.resolve_left known).1, fun there => .inr ⟨there, known⟩⟩
    simp only [seen]
    split
    · rfl
    · rw [List.filter_append, List.filter_singleton, List.append_assoc]
      simp [known]

theorem entryOf?_add_merge (l : String) (c : Citation) (first second : List Citation) :
    entryOf? l (add c (merge first second)) = entryOf? l (merge first (add c second)) := by
  rw [entryOf?_add, entryOf?_merge, entryOf?_merge, entryOf?_add]
  split
  · -- The citation competes with the entry of the first list, if there is one, and with that of the
    -- second one; which of the two comes first does not matter.
    cases entryOf? l first with
    | none => rfl
    | some old =>
      cases entryOf? l second with
      | none => rfl
      | some new => exact congrArg some (earlier_assoc old new c)
  · rfl

/-- One more citation may be added to the second list before merging or to the merged list. -/
theorem add_merge (c : Citation) {first second : List Citation}
    (distinct : (first.map link).Nodup) (distinct' : (second.map link).Nodup) :
    add c (merge first second) = merge first (add c second) :=
  eq_of_entries (nodup_map_link_add c (nodup_map_link_merge distinct distinct'))
    (map_link_add_merge c first second) fun l => entryOf?_add_merge l c first second

/-! ## Collecting in parts -/

theorem merge_nil (citations : List Citation) : merge citations [] = citations := by
  rw [merge, List.filter_nil, List.append_nil]
  exact List.map_id _

/-- Adding citations one by one comes to merging what is collected of them. -/
theorem addAll_eq_merge {citations : List Citation} (distinct : (citations.map link).Nodup)
    (more : List Citation) : addAll citations more = merge citations (addAll [] more) := by
  induction more using List.reverseRecOn with
  | nil => exact (merge_nil citations).symm
  | append_singleton more c ih =>
    rw [addAll_concat, addAll_concat, ih]
    exact add_merge c distinct (nodup_map_link_addAll more)

/-- What a list of citations keeps when more are merged into it: each stays in its place, and none
starts later. -/
theorem merge_extends (first second : List Citation) :
    ∃ kept new, merge first second = kept ++ new ∧
      List.Forall₂ (fun old c => c.link = old.link ∧ c.seconds ≤ old.seconds) first kept := by
  refine ⟨_, _, rfl, List.forall₂_map_right_iff.mpr (List.forall₂_same.mpr fun c _ => ?_)⟩
  refine ⟨link_elim_advanced c _, ?_⟩
  cases entryOf? c.link second with
  | none => exact Nat.le_refl _
  | some new => exact seconds_advanced_le c new

/-- Passages that are collected in two parts have the merged citations of the parts.  So further
passages neither remove nor move a citation, and none starts later for them. -/
theorem collect_append (passages more : List Passage) :
    collect (passages ++ more) = merge (collect passages) (collect more) ∧
      ∃ kept new, collect (passages ++ more) = kept ++ new ∧
        List.Forall₂ (fun old c => c.link = old.link ∧ c.seconds ≤ old.seconds)
          (collect passages) kept := by
  have parts : collect (passages ++ more) = merge (collect passages) (collect more) := by
    have added : collect (passages ++ more) =
        addAll (collect passages) (more.filterMap ofPassage?) := by
      rw [collect, List.filterMap_append, addAll, List.foldl_append]
      rfl
    rw [added]
    exact addAll_eq_merge (nodup_map_link_addAll _) _
  refine ⟨parts, ?_⟩
  rw [parts]
  exact merge_extends _ _

end CitedAnswers.Sources.Citation
