import CitedAnswers.Proofs.Sources.Collecting

/-! # Metadata and what is cited of them

Metadata may be any value.  They have a text under a name if they are an object with a string there
(`HasText`); each part of a passage is such a text, or else its default (`Told`, `Shows`).

`mem_collect_iff` finds the passage of a citation, the first that starts earliest among those with
its link; over passages that are made of metadata it becomes a statement about the metadata
(`mem_collect_iff_citedBy`).
-/

namespace CitedAnswers.Sources

/-! ## The first that starts earliest -/

namespace Citation

theorem exists_mem_collect_iff (passages : List Passage) (l : String) :
    (∃ c ∈ collect passages, c.link = l) ↔ ∃ p ∈ passages, p.link = some l := by
  have links := (cites_collect passages).links
  rw [← List.mem_map, links, List.mem_eraseDups, List.mem_filterMap]

/-- A citation comes from the first passage with its link that starts as early as any. -/
theorem mem_collect_iff {passages : List Passage} {c : Citation} :
    c ∈ collect passages ↔ ∃ before p after, passages = before ++ p :: after ∧
      p.link = some c.link ∧ p.title = c.title ∧ startSeconds p.text = c.seconds ∧
      (∀ q ∈ before, q.link = some c.link → c.seconds < startSeconds q.text) ∧
      ∀ q ∈ after, q.link = some c.link → c.seconds ≤ startSeconds q.text := by
  constructor
  · intro member
    obtain ⟨p, found, titled⟩ := Option.map_eq_some_iff.mp (title_of_mem_collect member)
    obtain ⟨cited, before, after, split, others⟩ := List.find?_eq_some_iff_append.mp found
    obtain ⟨linked, started⟩ := of_decide_eq_true cited
    have least : ∀ q ∈ passages, q.link = some c.link → c.seconds ≤ startSeconds q.text :=
      fun q inside linked => (isLeast_seconds member).2 ⟨q, inside, linked, rfl⟩
    rw [split] at least
    refine ⟨before, p, after, split, linked, titled, started, fun q inside linked => ?_,
      fun q inside => least q (List.mem_append_right _ (List.mem_cons_of_mem _ inside))⟩
    have other : startSeconds q.text ≠ c.seconds := by
      simpa [linked] using others q inside
    exact Nat.lt_of_le_of_ne (least q (List.mem_append_left _ inside) linked) other.symm
  · rintro ⟨before, p, after, rfl, linked, titled, started, earlier, later⟩
    have inside : p ∈ before ++ p :: after := List.mem_append_right _ List.mem_cons_self
    obtain ⟨d, member, same⟩ := (exists_mem_collect_iff _ c.link).mpr ⟨p, inside, linked⟩
    -- The entry of the link has the least start, which is that of the passage.
    have least : IsLeast {start | ∃ q ∈ before ++ p :: after,
        q.link = some d.link ∧ startSeconds q.text = start} c.seconds := by
      refine ⟨⟨p, inside, by rw [linked, same], started⟩, ?_⟩
      rintro start ⟨q, inside, linked, rfl⟩
      rw [same] at linked
      rcases List.mem_append.mp inside with front | back
      · exact Nat.le_of_lt (earlier q front linked)
      · rcases List.mem_cons.mp back with rfl | back
        · exact Nat.le_of_eq started.symm
        · exact later q back linked
    have seconds : d.seconds = c.seconds := (isLeast_seconds member).unique least
    have first : (before ++ p :: after).find?
        (fun q => q.link = some d.link ∧ startSeconds q.text = d.seconds) = some p := by
      refine List.find?_eq_some_iff_append.mpr ⟨?_, before, after, rfl, fun q front => ?_⟩
      · rw [same, seconds]
        exact decide_eq_true ⟨linked, started⟩
      · rw [same, seconds]
        have apart : q.link = some c.link → startSeconds q.text ≠ c.seconds :=
          fun linked => (earlier q front linked).ne'
        simpa [imp_iff_not_or] using apart
    have title : c.title = d.title := by
      have found := title_of_mem_collect member
      rw [first] at found
      exact titled.symm.trans (Option.some.inj found)
    have whole : c = d := by
      cases c
      cases d
      simp_all
    exact whole ▸ member

end Citation

/-! ## What metadata tell -/

/-- The metadata are an object with this string under the name. -/
inductive HasText (name : String) : Json → String → Prop where
  | member {members : List (String × Json)} {s : String}
      (here : members.lookup name = some (.string s)) : HasText name (.object members) s

/-- The string under the name, or the default where there is none. -/
inductive Told (name default : String) (metadata : Json) : String → Prop where
  | said {s : String} (has : HasText name metadata s) : Told name default metadata s
  | unsaid (silent : ∀ s, ¬HasText name metadata s) : Told name default metadata default

/-- A passage has the parts that metadata tell, and a link if they have one that is not empty. -/
structure Shows (metadata : Json) (p : Passage) : Prop where
  text : Told "text" "" metadata p.text
  title : Told "Title" "Video Link" metadata p.title
  link : ∀ l, p.link = some l ↔ l ≠ "" ∧ HasText "Link" metadata l

def StartsAt (metadata : Json) (seconds : Nat) : Prop :=
  ∃ text, Told "text" "" metadata text ∧ startSeconds text = seconds

/-- The citation of a link among metadata: with the title and the start of the first that have the
link and start as early as any with it. -/
def CitedBy (all : List Json) (c : Citation) : Prop :=
  c.link ≠ "" ∧ ∃ before m after, all = before ++ m :: after ∧
    HasText "Link" m c.link ∧ Told "Title" "Video Link" m c.title ∧ StartsAt m c.seconds ∧
    (∀ n ∈ before, HasText "Link" n c.link → ∀ start, StartsAt n start → c.seconds < start) ∧
    ∀ n ∈ after, HasText "Link" n c.link → ∀ start, StartsAt n start → c.seconds ≤ start

section Metadata

variable {name default s t : String} {m : Json}

theorem textUnder_eq_some_iff : Passage.textUnder name m = some s ↔ HasText name m s := by
  constructor
  · intro found
    obtain ⟨v, here, text⟩ := Option.bind_eq_some_iff.mp found
    cases m with
    | object members =>
      cases v with
      | string =>
        cases text
        exact .member here
      | null | bool | number | array | object => cases text
    | null | bool | number | string | array => cases here
  · rintro ⟨found⟩
    exact Option.bind_eq_some_iff.mpr ⟨_, found, rfl⟩

theorem told_iff : Told name default m s ↔ (Passage.textUnder name m).getD default = s := by
  cases found : Passage.textUnder name m with
  | some said =>
    have has := textUnder_eq_some_iff.mp found
    constructor
    · intro told
      cases told with
      | said again =>
        rw [textUnder_eq_some_iff.mpr again] at found
        exact (Option.some.inj found).symm
      | unsaid silent => exact absurd has (silent said)
    · rintro rfl
      exact .said has
  | none =>
    have silent : ∀ s, ¬HasText name m s := by
      intro s has
      rw [textUnder_eq_some_iff.mpr has] at found
      cases found
    constructor
    · intro told
      cases told with
      | said has => exact absurd has (silent s)
      | unsaid => rfl
    · rintro rfl
      exact .unsaid silent

theorem shows_ofMetadata (m : Json) : Shows m (Passage.ofMetadata m) where
  text := told_iff.mpr rfl
  title := told_iff.mpr rfl
  link l := by
    have linked : (Passage.ofMetadata m).link =
        (Passage.textUnder "Link" m).filter (· ≠ "") := rfl
    rw [linked, Option.filter_eq_some_iff, textUnder_eq_some_iff, decide_eq_true_eq, and_comm]

theorem startsAt_iff {seconds : Nat} :
    StartsAt m seconds ↔ startSeconds (Passage.ofMetadata m).text = seconds := by
  constructor
  · rintro ⟨text, told, started⟩
    rwa [← told_iff.mp told] at started
  · intro started
    exact ⟨_, (shows_ofMetadata m).text, started⟩

end Metadata

/-- Metadata have the citations that their passages have. -/
theorem mem_collect_iff_citedBy (all : List Json) (c : Citation) :
    c ∈ Citation.collect (all.map Passage.ofMetadata) ↔ CitedBy all c := by
  have linked (m : Json) (nonempty : c.link ≠ "") :
      (Passage.ofMetadata m).link = some c.link ↔ HasText "Link" m c.link := by
    rw [(shows_ofMetadata m).link]
    exact and_iff_right nonempty
  rw [Citation.mem_collect_iff]
  constructor
  · rintro ⟨before, p, after, split, isLink, titled, started, earlier, later⟩
    obtain ⟨front, back, rfl, rfl, parts⟩ := List.map_eq_append_iff.mp split
    obtain ⟨m, rest, rfl, rfl, rfl⟩ := List.map_eq_cons_iff.mp parts
    obtain ⟨nonempty, has⟩ := ((shows_ofMetadata m).link _).mp isLink
    refine ⟨nonempty, front, m, rest, rfl, has, told_iff.mpr titled, startsAt_iff.mpr started,
      ?_, ?_⟩
    · intro n inside has start startsAt
      rw [← startsAt_iff.mp startsAt]
      exact earlier _ (List.mem_map_of_mem inside) ((linked n nonempty).mpr has)
    · intro n inside has start startsAt
      rw [← startsAt_iff.mp startsAt]
      exact later _ (List.mem_map_of_mem inside) ((linked n nonempty).mpr has)
  · rintro ⟨nonempty, before, m, after, rfl, has, titled, started, earlier, later⟩
    refine ⟨before.map .ofMetadata, .ofMetadata m, after.map .ofMetadata, List.map_append,
      (linked m nonempty).mpr has, told_iff.mp titled, startsAt_iff.mp started, ?_, ?_⟩
    · intro q inside isLink
      obtain ⟨n, there, rfl⟩ := List.mem_map.mp inside
      exact earlier n there ((linked n nonempty).mp isLink) _ (startsAt_iff.mpr rfl)
    · intro q inside isLink
      obtain ⟨n, there, rfl⟩ := List.mem_map.mp inside
      exact later n there ((linked n nonempty).mp isLink) _ (startsAt_iff.mpr rfl)

end CitedAnswers.Sources
