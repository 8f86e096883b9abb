import CitedAnswers.Sources.Citation
import Mathlib.Data.List.MinMax
import Mathlib.Data.List.Nodup
import Mathlib.Order.Bounds.Basic

/-! # What is collected

Citations are collected one by one, and each may change an entry that has been changed before.  Two
views of a list of citations keep this apart: its links in order (`map_link_add`) and the entry of
each link (`entryOf?_add`).  Over a whole collection, the links are those of the passages without
repetition, and the entry of a link is the first of its citations with the least start
(`entryOf?_addAll`).

`cites_iff` states this of passages: `Cites` says what their citations have to be, and there is
exactly one list that is so.
-/

namespace CitedAnswers.Sources

namespace Citation

/-! ## Adding one citation -/

def entryOf? (l : String) (citations : List Citation) : Option Citation :=
  citations.find? fun c => c.link = l

theorem entryOf?_cons (l : String) (c : Citation) (rest : List Citation) :
    entryOf? l (c :: rest) = if c.link = l then some c else entryOf? l rest := by
  by_cases same : c.link = l <;> simp [entryOf?, same]

theorem link_earlier {old new : Citation} (same : old.link = new.link) :
    (earlier old new).link = new.link := by
  unfold earlier
  split
  · rfl
  · exact same

theorem map_link_add (c : Citation) (citations : List Citation) :
    (add c citations).map link =
      if c.link ∈ citations.map link then citations.map link
      else citations.map link ++ [c.link] := by
  induction citations with
  | nil => rfl
  | cons old rest ih =>
    by_cases same : old.link = c.link
    · simp [add, same, link_earlier same]
    · have other : ¬c.link = old.link := fun h => same h.symm
      simp only [add, if_neg same, List.map_cons, ih, List.mem_cons, other, false_or]
      split <;> rfl

theorem nodup_map_link_add (c : Citation) {citations : List Citation}
    (distinct : (citations.map link).Nodup) : ((add c citations).map link).Nodup := by
  rw [map_link_add]
  split
  · exact distinct
  · next new =>
    rw [← List.concat_eq_append]
    exact List.Nodup.concat new distinct

/-- Adding a citation changes the entry of its link only, to the earlier of the two. -/
theorem entryOf?_add (l : String) (c : Citation) (citations : List Citation) :
    entryOf? l (add c citations) =
      if c.link = l then some ((entryOf? l citations).elim c fun old => earlier old c)
      else entryOf? l citations := by
  induction citations with
  | nil => exact entryOf?_cons l c []
  | cons old rest ih =>
    by_cases same : old.link = c.link
    · rw [add, if_pos same, entryOf?_cons, entryOf?_cons, link_earlier same, same]
      split <;> rfl
    · rw [add, if_neg same, entryOf?_cons, entryOf?_cons, ih]
      by_cases here : old.link = l
      · have other : ¬c.link = l := fun h => same (here.trans h.symm)
        simp [here, other]
      · simp [here]

/-! ## Adding many -/

theorem eraseDups_concat (texts : List String) (text : String) :
    (texts ++ [text]).eraseDups =
      if text ∈ texts then texts.eraseDups else texts.eraseDups ++ [text] := by
  rw [List.eraseDups_append, List.cons_removeAll, List.nil_removeAll]
  by_cases seen : text ∈ texts <;> simp [seen, List.eraseDups_cons]

theorem addAll_concat (citations more : List Citation) (c : Citation) :
    addAll citations (more ++ [c]) = add c (addAll citations more) := by
  simp [addAll]

/-- The links of a collection, each where it comes first. -/
theorem map_link_addAll (more : List Citation) :
    (addAll [] more).map link = (more.map link).eraseDups := by
  induction more using List.reverseRecOn with
  | nil => rfl
  | append_singleton more c ih =>
    rw [addAll_concat, map_link_add, ih, List.map_append, List.map_singleton, eraseDups_concat]
    simp only [List.mem_eraseDups]

theorem nodup_map_link_addAll (more : List Citation) : ((addAll [] more).map link).Nodup := by
  induction more using List.reverseRecOn with
  | nil => exact List.nodup_nil
  | append_singleton more c ih =>
    rw [addAll_concat]
    exact nodup_map_link_add c ih

/-- The entry of a link is the first of its citations that start earliest. -/
theorem entryOf?_addAll (l : String) (more : List Citation) :
    entryOf? l (addAll [] more) = (more.filter fun c => c.link = l).argmin seconds := by
  -- From the end: a citation is added to what all before it have left, and `argmin` compares the
  -- last item with the least of those before in the same way.
  induction more using List.reverseRecOn with
  | nil => rfl
  | append_singleton more c ih =>
    rw [addAll_concat, entryOf?_add, ih, List.filter_append]
    by_cases here : c.link = l
    · simp only [here, if_true, List.filter_cons, decide_true, List.filter_nil, List.argmin_concat]
      cases (more.filter fun c => c.link = l).argmin seconds with
      | none => rfl
      | some old =>
        simp only [Option.elim, earlier]
        split <;> rfl
    · simp [here]

/-- What `argmin` gives is the first item of the list with its value. -/
theorem find?_of_mem_argmin {α : Type} (f : α → Nat) {items : List α} {least : α}
    (member : least ∈ items.argmin f) : items.find? (fun a => f a = f least) = some least := by
  induction items using List.reverseRecOn generalizing least with
  | nil => cases member
  | append_singleton items last ih =>
    rw [List.argmin_concat] at member
    cases before : items.argmin f with
    | none =>
      rw [before] at member
      cases member
      rw [List.argmin_eq_none.mp before]
      simp
    | some a =>
      rw [before] at member
      by_cases less : f last < f a
      · simp only [less, if_true, Option.mem_some_iff] at member
        subst member
        -- All items before the last one start later, so none of them is found.
        have none : items.find? (fun b => f b = f last) = none := by
          rw [List.find?_eq_none]
          intro b inside same
          have bound : f a ≤ f b := List.le_of_mem_argmin inside before
          have same := of_decide_eq_true same
          omega
        simp [List.find?_append, none]
      · simp only [less, if_false, Option.mem_some_iff] at member
        subst member
        rw [List.find?_append, ih before]
        rfl

/-- With no link twice, each citation is the entry of its link. -/
theorem entryOf?_eq_some {citations : List Citation} (distinct : (citations.map link).Nodup)
    {c : Citation} (member : c ∈ citations) : entryOf? c.link citations = some c := by
  induction citations with
  | nil => cases member
  | cons first rest ih =>
    rw [entryOf?_cons]
    rw [List.map_cons, List.nodup_cons] at distinct
    cases member with
    | head => exact if_pos rfl
    | tail _ member =>
      have other : ¬first.link = c.link := fun same =>
        distinct.1 (same ▸ List.mem_map_of_mem member)
      rw [if_neg other]
      exact ih distinct.2 member

end Citation

/-! ## The citations of passages -/

/-- What the citations of passages have to be: one for each link, in the order in which the links
come first, at the least start among the passages with the link and with the title of the first
passage that has both. -/
structure Cites (passages : List Passage) (citations : List Citation) : Prop where
  links : citations.map Citation.link = (passages.filterMap Passage.link).eraseDups
  seconds : ∀ c ∈ citations,
    IsLeast {start | ∃ p ∈ passages, p.link = some c.link ∧ startSeconds p.text = start} c.seconds
  title : ∀ c ∈ citations,
    (passages.find? fun p => p.link = some c.link ∧ startSeconds p.text = c.seconds).map
      Passage.title = some c.title

namespace Citation

theorem ofPassage?_eq_some {p : Passage} {c : Citation} :
    ofPassage? p = some c ↔
      p.link = some c.link ∧ p.title = c.title ∧ startSeconds p.text = c.seconds := by
  unfold ofPassage?
  cases c with
  | mk link title seconds => cases p.link <;> simp [eq_comm]

theorem map_link_filterMap (passages : List Passage) :
    (passages.filterMap ofPassage?).map link = passages.filterMap Passage.link := by
  induction passages with
  | nil => rfl
  | cons p rest ih =>
    cases linked : p.link <;> simp [ofPassage?, linked, ih]

/-- An entry of a collection is the citation of the first passage that starts as early as any with
its link. -/
theorem entry_of_mem_collect {passages : List Passage} {c : Citation}
    (member : c ∈ collect passages) :
    c ∈ ((passages.filterMap ofPassage?).filter fun d => d.link = c.link).argmin seconds := by
  rw [← entryOf?_addAll]
  exact entryOf?_eq_some (nodup_map_link_addAll _) member

theorem mem_citations {passages : List Passage} {l : String} {c : Citation} :
    (c ∈ (passages.filterMap ofPassage?).filter fun d => d.link = l) ↔
      ∃ p ∈ passages, p.link = some l ∧ c = ⟨l, p.title, startSeconds p.text⟩ := by
  simp only [List.mem_filter, List.mem_filterMap, decide_eq_true_eq]
  constructor
  · rintro ⟨⟨p, inside, cited⟩, rfl⟩
    obtain ⟨linked, titled, started⟩ := ofPassage?_eq_some.mp cited
    exact ⟨p, inside, linked, by rw [titled, started]⟩
  · rintro ⟨p, inside, linked, rfl⟩
    exact ⟨⟨p, inside, ofPassage?_eq_some.mpr ⟨linked, rfl, rfl⟩⟩, rfl⟩

theorem isLeast_seconds {passages : List Passage} {c : Citation} (member : c ∈ collect passages) :
    IsLeast {start | ∃ p ∈ passages, p.link = some c.link ∧ startSeconds p.text = start}
      c.seconds := by
  have entry := entry_of_mem_collect member
  constructor
  · obtain ⟨p, inside, linked, same⟩ := mem_citations.mp (List.argmin_mem entry)
    exact ⟨p, inside, linked, (congrArg seconds same).symm⟩
  · rintro start ⟨p, inside, linked, rfl⟩
    exact List.le_of_mem_argmin (mem_citations.mpr ⟨p, inside, linked, rfl⟩) entry

theorem title_of_mem_collect {passages : List Passage} {c : Citation}
    (member : c ∈ collect passages) :
    (passages.find? fun p => p.link = some c.link ∧ startSeconds p.text = c.seconds).map
      Passage.title = some c.title := by
  have first := find?_of_mem_argmin seconds (entry_of_mem_collect member)
  -- The citation that is found among citations comes from the passage that is found among passages.
  rw [List.find?_filter, List.find?_filterMap] at first
  obtain ⟨p, found, cited⟩ := Option.bind_eq_some_iff.mp first
  simp only [decide_eq_true_eq] at found
  have criterion : ∀ q : Passage,
      (ofPassage? q).any (fun d => decide (d.link = c.link ∧ d.seconds = c.seconds)) =
        decide (q.link = some c.link ∧ startSeconds q.text = c.seconds) := by
    intro q
    cases linked : q.link <;> simp [ofPassage?, linked]
  simp only [criterion] at found
  rw [found, Option.map_some, (ofPassage?_eq_some.mp cited).2.1]

theorem cites_collect (passages : List Passage) : Cites passages (collect passages) where
  links := by rw [collect, map_link_addAll, map_link_filterMap]
  seconds _ member := isLeast_seconds member
  title _ member := title_of_mem_collect member

/-- Entries with the same link are the same in all lists of citations that passages can have. -/
theorem eq_of_cites {passages : List Passage} {one other : List Citation}
    (cites : Cites passages one) (cites' : Cites passages other) {c d : Citation}
    (member : c ∈ one) (member' : d ∈ other) (same : c.link = d.link) : c = d := by
  have seconds : c.seconds = d.seconds := by
    have least := cites'.seconds d member'
    rw [← same] at least
    exact (cites.seconds c member).unique least
  have title : some c.title = some d.title := by
    rw [← cites.title c member, ← cites'.title d member', same, seconds]
  cases c
  cases d
  simp_all

/-- Lists that agree in the images of their items, where no two items share one, are the same. -/
theorem eq_of_map_eq {α β : Type} (f : α → β) {one other : List α} (same : one.map f = other.map f)
    (injective : ∀ a ∈ one, ∀ b ∈ other, f a = f b → a = b) : one = other := by
  induction one generalizing other with
  | nil => exact (List.map_eq_nil_iff.mp same.symm).symm
  | cons a one ih =>
    cases other with
    | nil => cases same
    | cons b other =>
      obtain ⟨head, tail⟩ := List.cons.inj same
      rw [injective a List.mem_cons_self b List.mem_cons_self head]
      rw [ih tail fun a inside b inside' =>
        injective a (List.mem_cons_of_mem _ inside) b (List.mem_cons_of_mem _ inside')]

end Citation

/-- Passages have exactly one list of citations, the one that is collected; passages without a link
have no part in it. -/
theorem cites_iff (passages : List Passage) (citations : List Citation) :
    (Cites passages citations ↔ citations = Citation.collect passages) ∧
      Citation.collect (passages.filter fun p => p.link.isSome) = Citation.collect passages := by
  refine ⟨⟨fun cites => ?_, fun same => same ▸ Citation.cites_collect passages⟩, ?_⟩
  · have collected := Citation.cites_collect passages
    apply Citation.eq_of_map_eq Citation.link (cites.links.trans collected.links.symm)
    intro c member d member' same
    exact Citation.eq_of_cites cites collected member member' same
  · have linked : ∀ p : Passage,
        (if p.link.isSome then Citation.ofPassage? p else none) = Citation.ofPassage? p := by
      intro p
      cases link : p.link <;> simp [Citation.ofPassage?, link]
    simp only [Citation.collect, List.filterMap_filter, linked]

end CitedAnswers.Sources
