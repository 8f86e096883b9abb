import CitedAnswers.Proofs.Json.Decoders
import CitedAnswers.Proofs.Json.Rendering
import CitedAnswers.Proofs.Remote.Refinement
import CitedAnswers.Proofs.Remote.Shapes

/-! # What a reply is worth

A reply is refused with its status unless the status says that the call was served.  Otherwise it is
worth the value that its body holds (`Holds`), and is unusable if the body holds none
(`services_of_reply`).  This is so for every call, whatever octets the body is made of, and by
whatever character sets the text of a refusal is read.

A body is looked at as the tree that it lays out.  What is read of a tree must be text, numbers in
range, and no deeper than the reader goes; what is passed over may be anything.
-/

namespace CitedAnswers.Remote

open CitedAnswers.Answering (Call)
open CitedAnswers.Json
open CitedAnswers.Number (Binary32)
open CitedAnswers.Sources (Passage)
open CitedAnswers.Text (Charsets Symbol symbols)

variable {α : Type}

/-! ## Shapes -/

inductive IsText : Tree → String → Prop where
  | string {pieces : List Piece} {s : String} (isText : textOf? pieces = some s) :
      IsText (.string pieces) s

/-- A number in range is taken as the nearest one of single precision. -/
inductive IsSingle : Tree → Binary32 → Prop where
  | number {n : Numeral} {x : Numeric} (inRange : n.value = .ok x) :
      IsSingle (.number n) (Decoder.toSingle x)

inductive IsNullable (P : Tree → α → Prop) : Tree → Option α → Prop where
  | null : IsNullable P .null none
  | value {tree : Tree} {a : α} (has : P tree a) : IsNullable P tree (some a)

/-- A tree that opens at most `depth` lists and objects at once has this value. -/
def IsValue (depth : Nat) (tree : Tree) (v : Json) : Prop :=
  tree.value? depth = some v

def IsVector : Tree → List Binary32 → Prop :=
  IsList IsSingle

def AreVectors : Tree → List (List Binary32) → Prop :=
  HasField "data" none false (IsList (HasField "embedding" none false IsVector))

/-- A message may have no content, or null in its place. -/
def IsChoice : Tree → Option String → Prop :=
  HasField "message" none false (HasField "content" (some none) false (IsNullable IsText))

def AreChoices : Tree → List (Option String) → Prop :=
  HasField "choices" none false (IsList IsChoice)

/-- Neither the matches of a reply nor the metadata of a match need be there. -/
def AreMetadata : Tree → List Json → Prop :=
  HasField "matches" (some []) true (IsList (HasField "metadata" (some .null) true (IsValue 124)))

/-- The value that a tree holds for a call: the first of the vectors, the content of the first
choice, all of the matches, the list itself, or the text. -/
def Holds : (call : Call) → Tree → call.Value → Prop
  | .analyze .., tree, entities => IsList (IsValue 126) tree entities
  | .anonymize .., tree, text => HasField "text" none false IsText tree text
  | .embed _, tree, vector => ∃ others, AreVectors tree (vector :: others)
  | .query .., tree, passages => ∃ metadata, AreMetadata tree metadata ∧
      metadata.map .ofMetadata = passages
  | .complete .., tree, text => ∃ others, AreChoices tree (some text :: others)

section Laws

variable {P Q : Tree → α → Prop} {tree : Tree}

theorem isList_congr (congr : ∀ tree a, P tree a ↔ Q tree a) {as : List α} :
    IsList P tree as ↔ IsList Q tree as :=
  ⟨.imp fun tree a => (congr tree a).mp, .imp fun tree a => (congr tree a).mpr⟩

theorem hasField_congr (congr : ∀ tree a, P tree a ↔ Q tree a) {field : String}
    {absent : Option α} {mayEnd : Bool} {a : α} :
    HasField field absent mayEnd P tree a ↔ HasField field absent mayEnd Q tree a :=
  ⟨.imp fun tree a => (congr tree a).mp, .imp fun tree a => (congr tree a).mpr⟩

end Laws

/-! ## What is decoded of them -/

theorem text?_eq_some_iff {tree : Tree} {s : String} : tree.text? = some s ↔ IsText tree s := by
  constructor
  · intro found
    cases tree with
    | string pieces => exact .string found
    | null | bool | number | array | object => cases found
  · rintro ⟨isText⟩
    exact isText

theorem single?_eq_some_iff {tree : Tree} {x : Binary32} :
    tree.single? = some x ↔ IsSingle tree x := by
  constructor
  · intro found
    cases tree with
    | number n =>
      obtain ⟨y, value, rfl⟩ := Option.map_eq_some_iff.mp found
      cases inRange : n.value with
      | error e => simp [inRange, Except.toOption] at value
      | ok z =>
        have same : z = y := by simpa [inRange, Except.toOption] using value
        exact same ▸ .number inRange
    | null | bool | string | array | object => cases found
  · rintro ⟨inRange⟩
    simp [Tree.single?, inRange, Except.toOption]

theorem nullable?_eq_some_iff {value : Tree → Option α} (noNull : value .null = none) {tree : Tree}
    {a? : Option α} :
    Tree.nullable? value tree = some a? ↔ IsNullable (value · = some ·) tree a? := by
  constructor
  · intro found
    cases tree with
    | null =>
      cases found
      exact .null
    | bool | number | string | array | object =>
      obtain ⟨a, has, rfl⟩ := Option.map_eq_some_iff.mp found
      exact .value has
  · intro nullable
    cases nullable with
    | null => rfl
    | value has =>
      cases tree with
      | null => cases noNull.symm.trans has
      | bool | number | string | array | object => simp [Tree.nullable?, has]

theorem isNullable_congr {P Q : Tree → α → Prop} (congr : ∀ tree a, P tree a ↔ Q tree a)
    {tree : Tree} {a? : Option α} : IsNullable P tree a? ↔ IsNullable Q tree a? := by
  constructor
  · rintro (_ | has)
    · exact .null
    · exact .value ((congr _ _).mp has)
  · rintro (_ | has)
    · exact .null
    · exact .value ((congr _ _).mpr has)

theorem decodes_soleField {d : Decoder α} {value : Nat → Tree → Option α}
    (decodes : Decodes d value) (name field : String) (absent : Option α) (mayEnd : Bool) :
    Decodes (soleField name field d absent mayEnd).decoder
      ((soleField name field d absent mayEnd).value? (takeSole value)) := by
  refine decodes_record fun f member before => ?_
  cases List.mem_singleton.mp member
  exact decodes.map some

/-- The body of a reply lays out a tree of this shape. -/
def LaysOut (shape : Tree → α → Prop) (body : List Symbol) (a : α) : Prop :=
  ∃ tree, IsLayout body tree ∧ shape tree a

theorem run_eq_ok_iff_laysOut {d : Decoder α} {value : Nat → Tree → Option α}
    {shape : Tree → α → Prop} (decodes : Decodes d value)
    (shaped : ∀ tree a, value depthLimit tree = some a ↔ shape tree a) {body : List Symbol}
    {a : α} : d.run body = .ok a ↔ LaysOut shape body a :=
  decodes.run_eq_ok_iff.trans (exists_congr fun tree => and_congr_right fun _ => shaped tree a)

section Bodies

variable {body : List Symbol}

theorem run_vectors_iff {vectors : List (List Binary32)} :
    vectorsDecoder.run body = .ok vectors ↔ LaysOut AreVectors body vectors := by
  have vector := decodes_soleField decodes_single.list "EmbeddingData" "embedding" none false
  refine run_eq_ok_iff_laysOut
    (decodes_soleField vector.list "EmbeddingResponse" "data" none false) fun tree as => ?_
  refine soleField_value?_iff.trans (hasField_congr fun tree as => ?_)
  refine list?_eq_some_iff.trans (isList_congr fun tree xs => ?_)
  refine soleField_value?_iff.trans (hasField_congr fun tree xs => ?_)
  exact list?_eq_some_iff.trans (isList_congr fun _ _ => single?_eq_some_iff)

theorem run_choices_iff {choices : List (Option String)} :
    choicesDecoder.run body = .ok choices ↔ LaysOut AreChoices body choices := by
  have content := decodes_soleField (decodes_string.nullable fun _ => rfl) "ChatChoiceMessage"
    "content" (some none) false
  have choice := decodes_soleField content "ChatChoice" "message" none false
  refine run_eq_ok_iff_laysOut
    (decodes_soleField choice.list "ChatResponse" "choices" none false) fun tree as => ?_
  refine soleField_value?_iff.trans (hasField_congr fun tree as => ?_)
  refine list?_eq_some_iff.trans (isList_congr fun tree text? => ?_)
  refine soleField_value?_iff.trans (hasField_congr fun tree text? => ?_)
  refine soleField_value?_iff.trans (hasField_congr fun tree text? => ?_)
  exact (nullable?_eq_some_iff rfl).trans (isNullable_congr fun _ _ => text?_eq_some_iff)

theorem run_matches_iff {metadata : List Json} :
    matchesDecoder.run body = .ok metadata ↔ LaysOut AreMetadata body metadata := by
  have one := decodes_soleField decodes_value "Match" "metadata" (some .null) true
  refine run_eq_ok_iff_laysOut
    (decodes_soleField one.list "QueryResponse" "matches" (some []) true) fun tree as => ?_
  refine soleField_value?_iff.trans (hasField_congr fun tree as => ?_)
  refine list?_eq_some_iff.trans (isList_congr fun tree v => ?_)
  exact soleField_value?_iff

theorem run_entities_iff {entities : List Json} :
    entitiesDecoder.run body = .ok entities ↔ LaysOut (IsList (IsValue 126)) body entities :=
  run_eq_ok_iff_laysOut decodes_value.list fun _ _ => list?_eq_some_iff

theorem run_anonymized_iff {text : String} :
    anonymizedDecoder.run body = .ok text ↔
      LaysOut (HasField "text" none false IsText) body text :=
  run_eq_ok_iff_laysOut (decodes_soleField decodes_string "AnonymizeResponse" "text" none false)
    fun _ _ => soleField_value?_iff.trans (hasField_congr fun _ _ => text?_eq_some_iff)

end Bodies

theorem toOption_eq_some_iff {ε : Type} {result : Except ε α} {a : α} :
    result.toOption = some a ↔ result = .ok a := by
  cases result <;> simp [Except.toOption]

/-- A body has a value for a call exactly if it lays out a tree that holds the value. -/
theorem decoded?_eq_some_iff {call : Call} {body : List Symbol} {v : call.Value} :
    decoded? call body = some v ↔ LaysOut (Holds call) body v := by
  cases call with
  | analyze text language => exact toOption_eq_some_iff.trans run_entities_iff
  | anonymize text entities => exact toOption_eq_some_iff.trans run_anonymized_iff
  | embed text =>
    constructor
    · intro decoded
      obtain ⟨vectors, found, first⟩ := Option.bind_eq_some_iff.mp decoded
      obtain ⟨others, rfl⟩ := List.head?_eq_some_iff.mp first
      obtain ⟨tree, laid, shape⟩ := run_vectors_iff.mp (toOption_eq_some_iff.mp found)
      exact ⟨tree, laid, others, shape⟩
    · rintro ⟨tree, laid, others, shape⟩
      have found := toOption_eq_some_iff.mpr (run_vectors_iff.mpr ⟨tree, laid, shape⟩)
      exact Option.bind_eq_some_iff.mpr ⟨_, found, rfl⟩
  | query vector topK =>
    constructor
    · intro decoded
      obtain ⟨metadata, found, rfl⟩ := Option.map_eq_some_iff.mp decoded
      obtain ⟨tree, laid, shape⟩ := run_matches_iff.mp (toOption_eq_some_iff.mp found)
      exact ⟨tree, laid, metadata, shape, rfl⟩
    · rintro ⟨tree, laid, metadata, shape, rfl⟩
      have found := toOption_eq_some_iff.mpr (run_matches_iff.mpr ⟨tree, laid, shape⟩)
      exact Option.map_eq_some_iff.mpr ⟨metadata, found, rfl⟩
  | complete conversation temperature =>
    constructor
    · intro decoded
      obtain ⟨choices, found, first⟩ := Option.bind_eq_some_iff.mp decoded
      obtain ⟨others, rfl⟩ := List.head?_eq_some_iff.mp (Option.join_eq_some_iff.mp first)
      obtain ⟨tree, laid, shape⟩ := run_choices_iff.mp (toOption_eq_some_iff.mp found)
      exact ⟨tree, laid, others, shape⟩
    · rintro ⟨tree, laid, others, shape⟩
      have found := toOption_eq_some_iff.mpr (run_choices_iff.mpr ⟨tree, laid, shape⟩)
      exact Option.bind_eq_some_iff.mpr ⟨_, found, rfl⟩

/-! ## Replies -/

section Replies

variable (charsets : Charsets)

theorem outcomeOf_of_not_served (call : Call) {r : Reply}
    (refused : ¬(200 ≤ r.status ∧ r.status ≤ 299)) :
    outcomeOf charsets call (some r) =
      .error (.status (serviceName call) r.status (r.text charsets)) :=
  if_neg refused

theorem outcomeOf_of_served (call : Call) {r : Reply} (served : 200 ≤ r.status ∧ r.status ≤ 299) :
    (∃ v, decoded? call (Text.decode r.body) = some v ∧
        outcomeOf charsets call (some r) = .ok v) ∨
      decoded? call (Text.decode r.body) = none ∧ ∃ reason,
        outcomeOf charsets call (some r) = .error (.unusable (serviceName call) reason) := by
  unfold outcomeOf Reply.worth
  simp only [if_pos served]
  cases decoded? call (Text.decode r.body) with
  | none => exact .inr ⟨rfl, misfit charsets call r, rfl⟩
  | some v => exact .inl ⟨v, rfl, rfl⟩

/-- What a call comes to whose request was replied to.  Its status is refused if it lies outside 200
to 299, with the name of the service and the text of the reply, as the character sets have it; else
the value is given that the body holds for the call, and if it holds none, the reply of this service
is unusable.  A call that was replied to is never lost on the way. -/
theorem services_of_reply {σ : Type} {a : Accounts} {call : Call} {posting : Posting}
    {transport : Transport σ} {memory left : σ} {r : Reply}
    (posted : a.posting? call = some posting)
    (replied : transport posting memory = (some r, left)) :
    ∃ answer, services charsets a transport call memory = (answer, left) ∧
      (answer = .error (.status (serviceName call) r.status (r.text charsets)) ↔
        ¬(200 ≤ r.status ∧ r.status ≤ 299)) ∧
      (200 ≤ r.status ∧ r.status ≤ 299 →
        (∀ v, answer = .ok v ↔ LaysOut (Holds call) (Text.decode r.body) v) ∧
        ((¬∃ v, LaysOut (Holds call) (Text.decode r.body) v) →
          ∃ reason, answer = .error (.unusable (serviceName call) reason))) ∧
      ∀ reason, answer ≠ .error (.transport reason) := by
  refine ⟨outcomeOf charsets call (some r), ?_, ?_⟩
  · rw [services_of_posting charsets posted, replied]
  by_cases served : 200 ≤ r.status ∧ r.status ≤ 299
  · obtain ⟨v, decoded, ok⟩ | ⟨none, reason, unusable⟩ := outcomeOf_of_served charsets call served
    · have holds := decoded?_eq_some_iff.mp decoded
      refine ⟨by simp [ok, served], fun _ => ⟨fun w => ?_, fun noValue => ?_⟩, by simp [ok]⟩
      · rw [ok, ← decoded?_eq_some_iff, decoded]
        simp
      · exact absurd ⟨v, holds⟩ noValue
    · refine ⟨by simp [unusable, served], fun _ => ⟨fun w => ?_, fun _ => ⟨reason, unusable⟩⟩,
        by simp [unusable]⟩
      rw [unusable, ← decoded?_eq_some_iff, none]
      simp
  · have refused := outcomeOf_of_not_served charsets call served
    exact ⟨iff_of_true refused served, fun isServed => absurd isServed served, by simp [refused]⟩

end Replies

/-- A text with an octet that is no text in a member that is passed over. -/
def brokenReply (status : Nat) : Reply where
  status := status
  contentType := none
  body := "\x7b\"x\":\"".toUTF8.toList ++ 0xFF :: "\",\"text\":\"a\"\x7d".toUTF8.toList

/-- A refusal with nothing in its body, as one is that broke off. -/
def brokenOff : Reply where
  status := 404
  contentType := some "text/plain; charset=shift_jis"
  body := []

theorem services_of_reply_broken :
    services .utf8Only someAccounts (always (brokenReply 200)) (.anonymize "q" []) () =
        (.ok "a", ()) ∧
      services .utf8Only someAccounts (always (brokenReply 404)) (.anonymize "q" []) () =
        (.error (.status "presidio-anonymizer" 404
          "\x7b\"x\":\"\uFFFD\",\"text\":\"a\"\x7d"), ()) ∧
      services .utf8Only someAccounts (always brokenOff) (.anonymize "q" []) () =
        (.error (.status "presidio-anonymizer" 404 ""), ()) := by
  have posted : someAccounts.posting? (.anonymize "q" []) = some _ := rfl
  have replied (r : Reply) (posting : Posting) : always r posting () = (some r, ()) := rfl
  refine ⟨?_, ?_, ?_⟩
  · obtain ⟨answer, came, -, served, -⟩ :=
      services_of_reply .utf8Only posted (replied (brokenReply 200) _)
    obtain ⟨holds, -⟩ := served (by decide)
    rw [came, (holds "a").mpr]
    -- The mended body lays out an object whose member `x` is no text, and is passed over.
    have lays : Lays _ _ := .object (.of_listed (.cons
      (named_of_lays "x" (.string Spells.nil.illFormed)) isBlank_nil isBlank_nil
      (.last (named_of_lays "text" (lays_string "a")))))
    refine ⟨_, ⟨[], _, [], ?_, isBlank_nil, lays, isBlank_nil⟩, ?_⟩
    · decide +kernel
    · exact .member (List.forall_mem_cons.mpr ⟨⟨_, textOf?_piecesOf "x"⟩,
        List.forall_mem_singleton.mpr ⟨_, textOf?_piecesOf "text"⟩⟩) rfl
        (.string (textOf?_piecesOf "a"))
  · obtain ⟨answer, came, refused, -⟩ :=
      services_of_reply .utf8Only posted (replied (brokenReply 404) _)
    have text : (brokenReply 404).text .utf8Only = Text.lossy (brokenReply 404).body :=
      Reply.text_of_unnamed .utf8Only rfl (by decide +kernel)
    rw [came, refused.mpr (by decide), text]
    decide +kernel
  · obtain ⟨answer, came, refused, -⟩ :=
      services_of_reply .utf8Only posted (replied brokenOff _)
    rw [came, refused.mpr (by decide), Reply.text_of_empty .utf8Only rfl]
    rfl

/-- Lists that are nested this deep around an empty one. -/
def nestedLists : Nat → Json
  | 0 => .array []
  | n + 1 => .array [nestedLists n]

def brackets (n : Nat) : List Char :=
  List.replicate n '[' ++ List.replicate n ']'

theorem renderChars_nestedLists (n : Nat) :
    renderChars (nestedLists n) = brackets (n + 1) := by
  induction n with
  | zero => simp [nestedLists, renderChars, renderItems, brackets]
  | succ n ih =>
    rw [nestedLists, renderChars, renderItems, ih, brackets, brackets,
      List.replicate_succ (n := n + 1), List.replicate_succ' (n := n + 1)]
    simp

theorem isDocument_brackets (n : Nat) : IsDocument (brackets (n + 1)) (nestedLists n) := by
  have back : readBack (n + 1) (nestedLists n) = some (nestedLists n) := by
    induction n with
    | zero => simp [nestedLists, readBack]
    | succ n ih => simp [nestedLists, readBack, ih]
  obtain ⟨tree, lays, value⟩ := lays_of_readBack back
  rw [← renderChars_nestedLists]
  exact isDocument_of_lays lays ⟨n + 1, value⟩

/-- A list whose only item is out of range. -/
def overflow : List Char := ['[', '1', 'e', '9', '9', '9', ']']

theorem lays_overflow : ∃ items, Lays overflow (.array items) := by
  have one : IsRun [1] := by simp [IsRun]
  have nines : IsRun [9, 9, 9] := by simp [IsRun]
  have writes : WritesMagnitude (figures [1] ++ [] ++ 'e' :: figures [9, 9, 9])
      ⟨false, [1], none, some (false, [9, 9, 9])⟩ :=
    .parts one (by simp) .none (.unsigned (.inl rfl) nines)
  exact ⟨_, .array (.of_listed (.last (.number (.plain rfl writes))))⟩

/-- A list whose only item is half a character. -/
def halfCharacter : List Char := ['[', '"', '\\', 'u', 'd', '8', '0', '0', '"', ']']

theorem lays_halfCharacter : ∃ items, Lays halfCharacter (.array items) := by
  have word : IsWord ['d', '8', '0', '0'] 0xD800 :=
    .digits (i := 13) (j := 8) (k := 0) (l := 0) ⟨by decide, .inl rfl⟩
      ⟨by decide, .inl rfl⟩ ⟨by decide, .inl rfl⟩ ⟨by decide, .inl rfl⟩
  exact ⟨_, .array (.of_listed (.last (.string (.word word .nil))))⟩

theorem body_replyOf (cs : List Char) :
    (replyOf (String.ofList cs)).body = cs.map fun c => UInt8.ofNat c.toNat := by
  simp [replyOf]

/-- Why a body is no list of entities, if it is none. -/
def refusal? (body : List Symbol) : Option String :=
  match entitiesDecoder.run body with
  | .error e => some e.message
  | .ok _ => none

theorem analyze_of_refusal {r : Reply} {reason : String} (isSuccess : r.isSuccess = true)
    (refused : refusal? (Text.decode r.body) = some reason) :
    services .utf8Only someAccounts (always r) (.analyze "q" "en") () =
      (.error (.unusable "presidio-analyzer" reason), ()) := by
  have posted : someAccounts.posting? (.analyze "q" "en") = some _ := rfl
  unfold refusal? at refused
  split at refused
  · next e run =>
    cases refused
    rw [services, posted]
    simp only [exchange, always, classify, Reply.classify, isSuccess, if_true, run]
  · cases refused

/-- Not all that is a document is read, and not all that is read is text: lists are refused whose
items are nested too deep, out of range, or half a character, and octets are passed over. -/
theorem read_apart_from_grammar :
    (IsDocument (brackets 128) (.array [nestedLists 126]) ∧
        services .utf8Only someAccounts (always (replyOf (String.ofList (brackets 128))))
            (.analyze "q" "en") () =
          (.error (.unusable "presidio-analyzer" "recursion limit exceeded at line 1 column 128"),
            ())) ∧
      ((∃ items, Lays overflow (.array items)) ∧
        services .utf8Only someAccounts (always (replyOf (String.ofList overflow)))
            (.analyze "q" "en") () =
          (.error (.unusable "presidio-analyzer" "number out of range at line 1 column 6"), ())) ∧
      ((∃ items, Lays halfCharacter (.array items)) ∧
        services .utf8Only someAccounts (always (replyOf (String.ofList halfCharacter)))
            (.analyze "q" "en") () =
          (.error (.unusable "presidio-analyzer" "unexpected end of hex escape at line 1 column 9"),
            ())) ∧
      Text.sound? (Text.decode (brokenReply 200).body) = none ∧
        services .utf8Only someAccounts (always (brokenReply 200)) (.anonymize "q" []) () =
          (.ok "a", ()) := by
  refine ⟨⟨isDocument_brackets 127, analyze_of_refusal rfl ?_⟩,
    ⟨lays_overflow, analyze_of_refusal rfl ?_⟩, ⟨lays_halfCharacter, analyze_of_refusal rfl ?_⟩,
    by decide +kernel, ?_⟩
  · rw [body_replyOf]
    decide +kernel
  · rw [body_replyOf]
    decide +kernel
  · rw [body_replyOf]
    decide +kernel
  · decide +kernel

end CitedAnswers.Remote
