import CitedAnswers.Metrics.Exposition
import CitedAnswers.Proofs.Metrics.Counting
import CitedAnswers.Proofs.Number.Decimals
import CitedAnswers.Text.Prefix
import CitedAnswers.Text.Split
import Mathlib.Data.List.Sort
import Mathlib.Order.Defs.LinearOrder

/-! # What an exposition tells

A tally that has counted some events is shown as lines from which the events can be told again, but
for their order: one line for each outcome that was recorded, in increasing order, with the number
of times, and one line with the citations (`exposition_of_events`).  A label is written so that its
closing quote is found and its value is read back character for character, whatever the characters
are (`readLabel?_label`).

The tally that is shown does not depend on the order of the events, because counts are determined by
the names that were counted (`Counts.eq_of_perm`).
-/

namespace CitedAnswers.Metrics

open CitedAnswers.Number (natural? natural?_toDigits not_mem_toDigits)
open CitedAnswers.Text (behind? behind?_eq_some_iff pieces)

/-! ## Events -/

/-- What is counted: an outcome, or citations that were shown. -/
inductive Event where
  | outcome (name : String)
  | citations (n : Nat)
  deriving DecidableEq, Repr

namespace Event

def name? : Event → Option String
  | outcome name => some name
  | citations _ => none

def cited : Event → Nat
  | outcome _ => 0
  | citations n => n

end Event

def recorded (events : List Event) : List String :=
  events.filterMap Event.name?

def citedIn (events : List Event) : Nat :=
  (events.map Event.cited).sum

namespace Tally

def countEvent (t : Tally) : Event → Tally
  | .outcome name => t.countOutcome name
  | .citations n => t.countCitations n

def ofEvents (events : List Event) : Tally :=
  events.foldl countEvent .empty

end Tally

theorem count_recorded (name : String) (events : List Event) :
    (recorded events).count name = events.count (.outcome name) := by
  induction events with
  | nil => rfl
  | cons e rest ih =>
    cases e with
    | outcome n =>
      have same : (Event.outcome n == Event.outcome name) = (n == name) := by
        rw [Bool.eq_iff_iff, beq_iff_eq, beq_iff_eq, Event.outcome.injEq]
      rw [List.count_cons, same, ← ih]
      exact List.count_cons
    | citations n =>
      rw [List.count_cons_of_ne (by simp)]
      exact ih

theorem mem_recorded {name : String} {events : List Event} :
    name ∈ recorded events ↔ .outcome name ∈ events := by
  rw [← List.count_pos_iff, count_recorded, List.count_pos_iff]

theorem outcomes_ofEvents (events : List Event) :
    (Tally.ofEvents events).outcomes =
      (recorded events).foldl (fun counts name => increment name counts) [] := by
  induction events using List.reverseRecOn with
  | nil => rfl
  | append_singleton events e ih =>
    rw [Tally.ofEvents, List.foldl_concat, recorded, List.filterMap_append, List.foldl_append]
    cases e with
    | outcome name => exact congrArg (increment name) ih
    | citations n => exact ih

theorem citations_ofEvents (events : List Event) :
    (Tally.ofEvents events).citations = UInt64.ofNat (citedIn events) := by
  induction events using List.reverseRecOn with
  | nil => rfl
  | append_singleton events e ih =>
    rw [Tally.ofEvents, List.foldl_concat, citedIn, List.map_append, List.sum_append,
      UInt64.ofNat_add]
    cases e with
    | outcome name => exact ih.trans (UInt64.add_zero _).symm
    | citations n => exact congrArg (· + UInt64.ofNat n) ih

theorem counts_ofEvents (events : List Event) :
    Counts (recorded events) (Tally.ofEvents events).outcomes := by
  rw [outcomes_ofEvents]
  exact counts_foldl (recorded events)

/-! ## Counts and names -/

theorem countOf_of_mem {counts : List (String × UInt64)}
    (ordered : counts.Pairwise fun a b => a.1 < b.1) {name : String} {count : UInt64}
    (member : (name, count) ∈ counts) : countOf name counts = count := by
  induction counts with
  | nil => cases member
  | cons entry rest ih =>
    obtain ⟨n, first⟩ := entry
    obtain ⟨less, others⟩ := List.pairwise_cons.mp ordered
    rw [countOf_cons]
    rcases List.mem_cons.mp member with here | behind
    · cases here
      exact if_pos rfl
    · have apart : name ≠ n := fun same => String.lt_irrefl n (same ▸ less _ behind)
      rw [if_neg apart]
      exact ih others behind

/-- Counts are their names with the count of each. -/
theorem map_countOf {counts : List (String × UInt64)}
    (ordered : counts.Pairwise fun a b => a.1 < b.1) :
    (counts.map Prod.fst).map (fun name => (name, countOf name counts)) = counts := by
  rw [List.map_map]
  refine (List.map_congr_left ?_).trans (List.map_id counts)
  rintro ⟨name, count⟩ member
  exact congrArg (name, ·) (countOf_of_mem ordered member)

/-- Names in any order have the same counts. -/
theorem Counts.eq_of_perm {names names' : List String} {counts counts' : List (String × UInt64)}
    (left : Counts names counts) (right : Counts names' counts') (perm : names.Perm names') :
    counts = counts' := by
  have namesOf {counts : List (String × UInt64)}
      (ordered : counts.Pairwise fun a b => a.1 < b.1) :
      (counts.map Prod.fst).Pairwise (· < ·) := List.pairwise_map.mpr ordered
  have same : counts.map Prod.fst = counts'.map Prod.fst := by
    -- An increasing list is told by its members.
    refine (namesOf left.ordered).eq_of_mem_iff (namesOf right.ordered) fun name => ?_
    rw [left.named, right.named, perm.mem_iff]
  rw [← map_countOf left.ordered, ← map_countOf right.ordered, same]
  refine List.map_congr_left fun name _ => ?_
  rw [left.counted, right.counted, perm.count_eq]

theorem ofEvents_perm {events events' : List Event} (perm : events.Perm events') :
    Tally.ofEvents events = Tally.ofEvents events' := by
  have outcomes := (counts_ofEvents events).eq_of_perm (counts_ofEvents events')
    (perm.filterMap Event.name?)
  have cited : citedIn events = citedIn events' := (perm.map Event.cited).sum_nat
  have citations : (Tally.ofEvents events).citations = (Tally.ofEvents events').citations := by
    rw [citations_ofEvents, citations_ofEvents, cited]
  cases left : Tally.ofEvents events
  cases right : Tally.ofEvents events'
  rw [left, right] at outcomes citations
  cases outcomes
  cases citations
  rfl

/-! ## Labels -/

def unescaped? : Char → Option Char
  | '\\' => some '\\'
  | '"' => some '"'
  | 'n' => some '\n'
  | _ => none

/-- The value of a label whose opening quote has been read, and what stands behind its closing
quote; `escaping` tells whether a backslash has just been read. -/
def readLabel? : (escaping : Bool) → List Char → Option (List Char × List Char)
  | _, [] => none
  | true, letter :: rest =>
    (unescaped? letter).bind fun c =>
      (readLabel? false rest).map fun (value, left) => (c :: value, left)
  | false, c :: rest =>
    if c = '"' then some ([], rest)
    else if c = '\\' then readLabel? true rest
    else (readLabel? false rest).map fun (value, left) => (c :: value, left)

theorem toList_label (value : String) : (label value).toList = value.toList.flatMap labelChar :=
  String.toList_ofList

theorem readLabel?_labelChar (c : Char) (rest : List Char) :
    readLabel? false (labelChar c ++ rest) =
      (readLabel? false rest).map fun (value, left) => (c :: value, left) := by
  unfold labelChar
  split
  · next same =>
    subst same
    rfl
  · split
    · next same =>
      subst same
      rfl
    · split
      · next same =>
        subst same
        rfl
      · next noBackslash _ noQuote =>
        rw [List.singleton_append, readLabel?, if_neg noQuote, if_neg noBackslash]

/-- A label is read back as the value it was written for, and its end is found. -/
theorem readLabel?_label (value : String) (rest : List Char) :
    readLabel? false ((label value).toList ++ '"' :: rest) = some (value.toList, rest) := by
  rw [toList_label]
  induction value.toList with
  | nil => rfl
  | cons c cs ih =>
    rw [List.flatMap_cons, List.append_assoc, readLabel?_labelChar, ih]
    rfl

theorem newline_not_mem_label (value : String) : '\n' ∉ (label value).toList := by
  have free (c : Char) : '\n' ∉ labelChar c := by
    unfold labelChar
    split_ifs with isBackslash isNewline isQuote
    · decide
    · decide
    · decide
    · exact fun member => isNewline (List.mem_singleton.mp member).symm
  rw [toList_label, List.mem_flatMap]
  rintro ⟨c, -, member⟩
  exact free c member

/-! ## Samples -/

def outcomeLine (name : String) (count : Nat) : String :=
  "answers_total\x7boutcome=\"" ++ label name ++ "\"\x7d " ++ toString count

def citationLine (count : Nat) : String :=
  "citations_attached_total " ++ toString count

theorem sampleValue_ofNat {n : Nat} (small : n < 2 ^ 53) :
    sampleValue (UInt64.ofNat n) = toString n := by
  have word : (UInt64.ofNat n).toNat = n :=
    UInt64.toNat_ofNat_of_lt' (Nat.lt_trans small (by decide))
  rw [sampleValue, word]
  exact if_pos small

theorem toList_toString (n : Nat) : (toString n).toList = Nat.toDigits 10 n :=
  Nat.toList_repr

theorem toList_outcomeLine (name : String) (count : Nat) :
    (outcomeLine name count).toList =
      "answers_total\x7boutcome=\"".toList ++
        ((label name).toList ++ '"' :: ("\x7d ".toList ++ Nat.toDigits 10 count)) := by
  unfold outcomeLine
  simp only [String.toList_append, toList_toString, List.append_assoc]
  rfl

theorem toList_citationLine (count : Nat) :
    (citationLine count).toList = "citations_attached_total ".toList ++ Nat.toDigits 10 count := by
  unfold citationLine
  rw [String.toList_append, toList_toString]

/-- The outcome and the number that a line shows. -/
def readOutcome? (line : String) : Option (String × Nat) :=
  (behind? "answers_total\x7boutcome=\"".toList line.toList).bind fun written =>
    (readLabel? false written).bind fun (value, behind) =>
      (behind? "\x7d ".toList behind).bind fun digits =>
        (natural? digits).map fun count => (String.ofList value, count)

/-- The number of citations that a line shows. -/
def readCitations? (line : String) : Option Nat :=
  (behind? "citations_attached_total ".toList line.toList).bind natural?

theorem readOutcome?_outcomeLine (name : String) (count : Nat) :
    readOutcome? (outcomeLine name count) = some (name, count) := by
  rw [readOutcome?, behind?_eq_some_iff.mpr (toList_outcomeLine name count), Option.bind_some,
    readLabel?_label, Option.bind_some]
  dsimp only
  rw [behind?_eq_some_iff.mpr rfl, Option.bind_some, natural?_toDigits, Option.map_some,
    String.ofList_toList]

theorem readCitations?_citationLine (count : Nat) :
    readCitations? (citationLine count) = some count := by
  rw [readCitations?, behind?_eq_some_iff.mpr (toList_citationLine count), Option.bind_some,
    natural?_toDigits]

theorem readOutcome?_citationLine (count : Nat) : readOutcome? (citationLine count) = none := by
  rw [readOutcome?, toList_citationLine]
  rfl

theorem readCitations?_outcomeLine (name : String) (count : Nat) :
    readCitations? (outcomeLine name count) = none := by
  rw [readCitations?, toList_outcomeLine]
  rfl

/-! ## Lines -/

/-- The lines of a text that are neither empty nor comments. -/
def sampleLines (text : String) : List String :=
  ((pieces '\n' text.toList).map String.ofList).filter fun line => line.toList.head?.any (· ≠ '#')

theorem pieces_append {separator : Char} {line : List Char} (free : separator ∉ line)
    (rest : List Char) :
    pieces separator (line ++ separator :: rest) = line :: pieces separator rest := by
  induction line with
  | nil => simp [pieces]
  | cons c line ih =>
    rw [List.mem_cons, not_or] at free
    rw [List.cons_append, pieces, if_neg (Ne.symm free.1), ih free.2]

theorem pieces_flatMap {separator : Char} {lines : List (List Char)}
    (free : ∀ line ∈ lines, separator ∉ line) :
    pieces separator (lines.flatMap (· ++ [separator])) = lines ++ [[]] := by
  induction lines with
  | nil => rfl
  | cons line lines ih =>
    obtain ⟨here, others⟩ := List.forall_mem_cons.mp free
    rw [List.flatMap_cons, List.append_assoc, List.singleton_append, pieces_append here, ih others,
      List.cons_append]

theorem toList_exposition (t : Tally) :
    (exposition t).toList = ((lines t).map String.toList).flatMap (· ++ ['\n']) := by
  simp [exposition, String.toList_join, List.flatMap_map]

theorem newline_not_mem_family {name help : String} {samples : List String}
    (named : '\n' ∉ name.toList) (helped : '\n' ∉ help.toList)
    (free : ∀ line ∈ samples, '\n' ∉ line.toList) :
    ∀ line ∈ family name help samples, '\n' ∉ line.toList := by
  unfold family
  split
  · exact List.forall_mem_nil _
  · rw [List.forall_mem_cons, List.forall_mem_cons]
    exact ⟨by simp [named, helped], by simp [named], free⟩

theorem filter_family {isSample : String → Bool} {name help : String} {samples : List String}
    (comment : ∀ rest, isSample ("# " ++ rest) = false)
    (kept : ∀ line ∈ samples, isSample line = true) :
    (family name help samples).filter isSample = samples := by
  unfold family
  split
  · next empty => exact (List.isEmpty_iff.mp empty).symm
  · have helpLine : isSample ("# HELP " ++ name ++ " " ++ help) = false := by
      have := comment ("HELP " ++ name ++ " " ++ help)
      simpa [← String.append_assoc] using this
    have typeLine : isSample ("# TYPE " ++ name ++ " counter") = false := by
      have := comment ("TYPE " ++ name ++ " counter")
      simpa [← String.append_assoc] using this
    rw [List.filter_cons_of_neg (by simp [helpLine]), List.filter_cons_of_neg (by simp [typeLine])]
    exact List.filter_eq_self.mpr kept

theorem newline_not_mem_outcomeLine (name : String) (count : Nat) :
    '\n' ∉ (outcomeLine name count).toList := by
  have digits : '\n' ∉ Nat.toDigits 10 count := not_mem_toDigits (by decide) count
  simp [toList_outcomeLine, newline_not_mem_label, digits]

theorem newline_not_mem_citationLine (count : Nat) :
    '\n' ∉ (citationLine count).toList := by
  have digits : '\n' ∉ Nat.toDigits 10 count := not_mem_toDigits (by decide) count
  simp [toList_citationLine, digits]

/-- What is shown of a tally has its samples as sample lines, where they are lines of this form. -/
theorem sampleLines_exposition {t : Tally} {shown : List (String × Nat)} {cited : Nat}
    (outcomes : outcomeSamples t = shown.map fun entry => outcomeLine entry.1 entry.2)
    (citations : citationSample t.citations = citationLine cited) :
    sampleLines (exposition t) =
      (shown.map fun entry => outcomeLine entry.1 entry.2) ++ [citationLine cited] := by
  have free : ∀ line ∈ (lines t).map String.toList, '\n' ∉ line := by
    unfold lines
    rw [outcomes, citations, List.forall_mem_map, List.forall_mem_append]
    constructor
    · refine newline_not_mem_family (by decide) (by decide) (List.forall_mem_map.mpr ?_)
      exact fun entry _ => newline_not_mem_outcomeLine entry.1 entry.2
    · refine newline_not_mem_family (by decide) (by decide) (List.forall_mem_singleton.mpr ?_)
      exact newline_not_mem_citationLine cited
  have back : String.ofList ∘ String.toList = id := funext fun _ => String.ofList_toList
  rw [sampleLines, toList_exposition, pieces_flatMap free, List.map_append, List.map_map, back,
    List.map_id, List.filter_append]
  unfold lines
  rw [outcomes, citations, List.filter_append, filter_family, filter_family]
  · simp
  · intro rest
    simp
  · rw [List.forall_mem_singleton, toList_citationLine]
    rfl
  · intro rest
    simp
  · rw [List.forall_mem_map]
    intro entry _
    rw [toList_outcomeLine]
    rfl

/-! ## What is shown of events -/

/-- Whether every number that is shown of events is one that samples show exactly. -/
def AreSmall (events : List Event) : Prop :=
  (∀ name, events.count (.outcome name) < 2 ^ 53) ∧ citedIn events < 2 ^ 53

/-- The names that were recorded, in increasing order and each once. -/
def namesOf (events : List Event) : List String :=
  (Tally.ofEvents events).outcomes.map Prod.fst

/-- How often each name was recorded. -/
def timesOf (events : List Event) : List (String × Nat) :=
  (namesOf events).map fun name => (name, events.count (.outcome name))

theorem pairwise_namesOf (events : List Event) : (namesOf events).Pairwise (· < ·) :=
  List.pairwise_map.mpr (counts_ofEvents events).ordered

theorem mem_namesOf {name : String} {events : List Event} :
    name ∈ namesOf events ↔ .outcome name ∈ events :=
  ((counts_ofEvents events).named name).trans mem_recorded

theorem outcomeSamples_ofEvents {events : List Event} (small : AreSmall events) :
    outcomeSamples (.ofEvents events) =
      (timesOf events).map fun entry => outcomeLine entry.1 entry.2 := by
  have counts := counts_ofEvents events
  have entries := map_countOf counts.ordered
  rw [outcomeSamples, ← entries, timesOf, namesOf]
  simp only [List.map_map]
  refine List.map_congr_left fun entry _ => ?_
  have value : sampleValue (countOf entry.1 (Tally.ofEvents events).outcomes) =
      toString (events.count (.outcome entry.1)) := by
    rw [counts.counted, count_recorded]
    exact sampleValue_ofNat (small.1 entry.1)
  simp only [Function.comp_apply]
  unfold outcomeSample outcomeLine
  rw [value]

theorem citationSample_ofEvents {events : List Event} (small : AreSmall events) :
    citationSample (Tally.ofEvents events).citations = citationLine (citedIn events) := by
  unfold citationSample citationLine
  rw [citations_ofEvents, sampleValue_ofNat small.2]

theorem sampleLines_ofEvents {events : List Event} (small : AreSmall events) :
    sampleLines (exposition (.ofEvents events)) =
      ((timesOf events).map fun entry => outcomeLine entry.1 entry.2) ++
        [citationLine (citedIn events)] :=
  sampleLines_exposition (outcomeSamples_ofEvents small) (citationSample_ofEvents small)

theorem filterMap_readOutcome? (times : List (String × Nat)) (cited : Nat) :
    ((times.map fun entry => outcomeLine entry.1 entry.2) ++ [citationLine cited]).filterMap
      readOutcome? = times := by
  rw [List.filterMap_append, List.filterMap_map,
    List.filterMap_cons_none (readOutcome?_citationLine cited), List.filterMap_nil,
    List.append_nil]
  have read : (readOutcome? ∘ fun entry => outcomeLine entry.1 entry.2) = some := by
    funext entry
    rw [Function.comp_apply, readOutcome?_outcomeLine]
  rw [read, List.filterMap_some]

theorem filterMap_readCitations? (times : List (String × Nat)) (cited : Nat) :
    ((times.map fun entry => outcomeLine entry.1 entry.2) ++ [citationLine cited]).filterMap
      readCitations? = [cited] := by
  rw [List.filterMap_append, List.filterMap_map,
    List.filterMap_cons_some (readCitations?_citationLine cited), List.filterMap_nil]
  have read : (readCitations? ∘ fun entry : String × Nat => outcomeLine entry.1 entry.2) =
      fun _ => none := by
    funext entry
    rw [Function.comp_apply, readCitations?_outcomeLine]
  rw [read, List.filterMap_none, List.nil_append]

theorem lookup_map_pair (f : String → Nat) (name : String) (names : List String) :
    (names.map fun n => (n, f n)).lookup name = if name ∈ names then some (f name) else none := by
  induction names with
  | nil => rfl
  | cons n names ih =>
    rw [List.map_cons, Association.lookup_cons, ih]
    by_cases same : name = n
    · simp [same]
    · simp [same]

/-- How often a name was recorded is told by the times, also of a name that was not. -/
theorem count_eq_lookup (name : String) (events : List Event) :
    events.count (.outcome name) = ((timesOf events).lookup name).getD 0 := by
  rw [timesOf, lookup_map_pair]
  split
  · rfl
  · next unnamed => exact List.count_eq_zero.mpr fun member => unnamed (mem_namesOf.mpr member)

/-- What is shown of events has one sample for each outcome that was recorded, in increasing order
and with the number of times, and one for the citations.  The values of its labels and all its
numbers are read back, so that other numbers are never shown alike; the order of the events does not
matter. -/
theorem exposition_of_events {events : List Event} (small : AreSmall events) :
    (∃ names : List String, names.Pairwise (· < ·) ∧
      (∀ name, name ∈ names ↔ .outcome name ∈ events) ∧
      sampleLines (exposition (.ofEvents events)) =
        (names.map fun name => outcomeLine name (events.count (.outcome name))) ++
          [citationLine (citedIn events)] ∧
      (sampleLines (exposition (.ofEvents events))).filterMap readOutcome? =
        names.map fun name => (name, events.count (.outcome name))) ∧
    (∀ value rest, readLabel? false ((label value).toList ++ '"' :: rest) =
      some (value.toList, rest)) ∧
    (∀ events', AreSmall events' →
      exposition (.ofEvents events') = exposition (.ofEvents events) →
        (∀ name, events'.count (.outcome name) = events.count (.outcome name)) ∧
          citedIn events' = citedIn events) ∧
    ∀ events', events'.Perm events →
      exposition (.ofEvents events') = exposition (.ofEvents events) := by
  have shown := sampleLines_ofEvents small
  refine ⟨⟨namesOf events, pairwise_namesOf events, fun name => mem_namesOf, ?_, ?_⟩,
    readLabel?_label, ?_, ?_⟩
  · rw [shown, timesOf, List.map_map]
    rfl
  · rw [shown, filterMap_readOutcome?]
    rfl
  · intro events' exact' same
    have shown' := sampleLines_ofEvents exact'
    rw [same, shown] at shown'
    have times := congrArg (List.filterMap readOutcome?) shown'
    have cited := congrArg (List.filterMap readCitations?) shown'
    rw [filterMap_readOutcome?, filterMap_readOutcome?] at times
    rw [filterMap_readCitations?, filterMap_readCitations?, List.singleton_inj] at cited
    refine ⟨fun name => ?_, cited.symm⟩
    rw [count_eq_lookup, count_eq_lookup, times]
  · intro events' perm
    rw [ofEvents_perm perm]

/-- Labels with all that has to be escaped, recorded out of order and among citations. -/
def awkwardEvents : List Event := [
  .outcome "b\"\\", .citations 2, .outcome "a\nb", .outcome "b\"\\", .citations 3]

theorem exposition_of_awkwardEvents :
    AreSmall awkwardEvents ∧
      (∃ names : List String, names.Pairwise (· < ·) ∧ "a\nb" ∈ names ∧
        (sampleLines (exposition (.ofEvents awkwardEvents))).filterMap readOutcome? =
          names.map fun name => (name, awkwardEvents.count (.outcome name))) ∧
      exposition (.ofEvents awkwardEvents.reverse) = exposition (.ofEvents awkwardEvents) := by
  have small : AreSmall awkwardEvents := by
    refine ⟨fun name => ?_, by decide⟩
    have few : awkwardEvents.count (.outcome name) ≤ 5 := List.count_le_length
    omega
  obtain ⟨⟨names, increasing, members, -, read⟩, -, -, alike⟩ := exposition_of_events small
  refine ⟨small, ⟨names, increasing, ?_, read⟩, alike _ (List.reverse_perm _)⟩
  exact (members _).mpr (by decide)

end CitedAnswers.Metrics
