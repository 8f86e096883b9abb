import CitedAnswers.Chat.Completion
import CitedAnswers.Proofs.Json.Records
import CitedAnswers.Proofs.Json.Values

/-! # Requests and how they are presented

A tree presents a request if it has its model and its messages, each once and each in either form,
whatever else it has (`Request.Presents`).  The body of a request may lay such a tree out in any
way: it is decoded to the model and the messages, and nothing else of it is kept but a temperature
(`decode_of_presents`).

What is gathered for a field of an object depends on the values under its own name alone
(`settled_of_gather`).
-/

namespace CitedAnswers.Chat

open CitedAnswers.Json
open CitedAnswers.Number (Binary32)

/-! ## Members -/

/-- The values that an object has under a name, in the order of its members. -/
def valuesOf (name : String) (members : List (List Piece × Tree)) : List Tree :=
  members.filterMap fun member => if textOf? member.1 = some name then some member.2 else none

/-- Whether the names of all members are text. -/
def NamesAreText (members : List (List Piece × Tree)) : Prop :=
  ∀ member ∈ members, ∃ name, textOf? member.1 = some name

section Members

variable {name n : String} {pieces : List Piece} {tree : Tree} {members : List (List Piece × Tree)}

theorem valuesOf_same (spelled : textOf? pieces = some name) :
    valuesOf name ((pieces, tree) :: members) = tree :: valuesOf name members := by
  simp [valuesOf, spelled]

theorem valuesOf_other (spelled : textOf? pieces = some n) (other : n ≠ name) :
    valuesOf name ((pieces, tree) :: members) = valuesOf name members := by
  simp [valuesOf, spelled, other]

end Members

/-- Of the values under one name at most one is taken, and none if there is one already. -/
def Settled {β : Type} (value : Tree → Option β) (before : Option β) (values : List Tree)
    (after : Option β) : Prop :=
  (values = [] ∧ after = before) ∨
    before = none ∧ ∃ tree b, values = [tree] ∧ value tree = some b ∧ after = some b

theorem Settled.first {β : Type} {value : Tree → Option β} {before after : Option β} {tree : Tree}
    {rest : List Tree} (settled : Settled value before (tree :: rest) after) :
    ∃ b, before = none ∧ value tree = some b ∧ Settled value (some b) rest after := by
  rcases settled with ⟨none, -⟩ | ⟨rfl, _, b, same, found, rfl⟩
  · cases none
  · cases same
    exact ⟨b, rfl, found, .inl ⟨rfl, rfl⟩⟩

theorem Settled.last {β : Type} {value : Tree → Option β} {before after : Option β}
    (settled : Settled value before [] after) : after = before := by
  rcases settled with ⟨-, same⟩ | ⟨-, _, _, some, -⟩
  · exact same
  · cases some

theorem Settled.once {β : Type} {value : Tree → Option β} {values : List Tree} {b : β}
    (settled : Settled value none values (some b)) :
    ∃ tree, values = [tree] ∧ value tree = some b := by
  rcases settled with ⟨-, none⟩ | ⟨-, tree, c, once, here, same⟩
  · cases none
  · cases same
    exact ⟨tree, once, here⟩

/-! ## Gathering -/

section Gathering

variable {σ β : Type} {step : σ → String → Tree → Option σ} {start gathered : σ}
  {members : List (List Piece × Tree)}

theorem namesAreText_of_gather (found : gather step start members = some gathered) :
    NamesAreText members := by
  induction members generalizing start with
  | nil => exact List.forall_mem_nil _
  | cons member members ih =>
    obtain ⟨pieces, tree⟩ := member
    cases spelled : textOf? pieces with
    | none => simp [gather, spelled] at found
    | some name =>
      rw [gather_cons _ _ spelled] at found
      obtain ⟨between, -, rest⟩ := Option.bind_eq_some_iff.mp found
      exact List.forall_mem_cons.mpr ⟨⟨name, spelled⟩, ih rest⟩

/-- What is gathered in one place is settled by the values under one name, if that place is filled
from them alone and not when it is full. -/
theorem settled_of_gather (view : σ → Option β) {value : Tree → Option β} {name : String}
    (own : ∀ {before tree after}, step before name tree = some after →
      ∃ b, view before = none ∧ value tree = some b ∧ view after = some b)
    (other : ∀ {before n tree after}, n ≠ name → step before n tree = some after →
      view after = view before)
    (found : gather step start members = some gathered) :
    Settled value (view start) (valuesOf name members) (view gathered) := by
  induction members generalizing start with
  | nil =>
    cases found
    exact .inl ⟨rfl, rfl⟩
  | cons member members ih =>
    obtain ⟨pieces, tree⟩ := member
    cases spelled : textOf? pieces with
    | none => simp [gather, spelled] at found
    | some n =>
      rw [gather_cons _ _ spelled] at found
      obtain ⟨between, first, rest⟩ := Option.bind_eq_some_iff.mp found
      by_cases same : n = name
      · subst same
        obtain ⟨b, unset, here, set⟩ := own first
        rw [valuesOf_same spelled]
        -- The place is full from here on, so nothing more comes under the name.
        rcases set ▸ ih rest with ⟨none, after⟩ | ⟨full, -⟩
        · exact .inr ⟨unset, tree, b, by rw [none], here, after⟩
        · cases full
      · rw [valuesOf_other spelled same, ← other same first]
        exact ih rest

end Gathering

theorem eq_some_of_unset {β γ σ : Type} {set : Option β} {found : Option γ} {put : γ → σ}
    {after : σ}
    (came : (if set.isSome then none else found.map put) = some after) :
    set = none ∧ ∃ c, found = some c ∧ put c = after := by
  cases set with
  | none => exact ⟨rfl, Option.map_eq_some_iff.mp came⟩
  | some b => cases came

/-! ## Messages -/

namespace Message

inductive Presents : Tree → Message → Prop where
  | object {members : List (List Piece × Tree)} {role content : String}
      {rolePieces contentPieces : List Piece} (names : NamesAreText members)
      (hasRole : valuesOf "role" members = [.string rolePieces])
      (isRole : textOf? rolePieces = some role)
      (hasContent : valuesOf "content" members = [.string contentPieces])
      (isContent : textOf? contentPieces = some content) :
      Presents (.object members) ⟨.ofName role, content⟩
  | list {role content : String} {rolePieces contentPieces : List Piece}
      (isRole : textOf? rolePieces = some role)
      (isContent : textOf? contentPieces = some content) :
      Presents (.array [.string rolePieces, .string contentPieces]) ⟨.ofName role, content⟩

/-- What a field takes from a tree. -/
def take (name : String) (_depth : Nat) (g : Gathered) (tree : Tree) : Option Gathered :=
  if name = "role" then tree.text?.map fun s => { g with role := some s }
  else tree.text?.map fun s => { g with content := some s }

theorem reads_message (depth : Nat) :
    Reads Lays (Message.decoder depth) (Message.record.value? take depth) := by
  apply Record.reads_record
  intro f member depth g
  simp only [record, List.mem_cons, List.not_mem_nil, or_false] at member
  rcases member with rfl | rfl
  · exact (reads_string depth).map _
  · exact (reads_string depth).map _

section Steps

variable (depth : Nat) (g : Gathered) (tree : Tree)

theorem step_role : record.step take depth g "role" tree =
    if g.role.isSome then none else tree.text?.map fun s => { g with role := some s } := rfl

theorem step_content : record.step take depth g "content" tree =
    if g.content.isSome then none else tree.text?.map fun s => { g with content := some s } := rfl

theorem step_other {name : String} (noRole : name ≠ "role") (noContent : name ≠ "content") :
    record.step take depth g name tree = some g := by
  simp [Record.step, Record.field?, record, noRole.symm, noContent.symm]

end Steps

theorem gather_of_settled {members : List (List Piece × Tree)} {g : Gathered}
    {role content : Option String} (depth : Nat) (names : NamesAreText members)
    (hasRole : Settled Tree.text? g.role (valuesOf "role" members) role)
    (hasContent : Settled Tree.text? g.content (valuesOf "content" members) content) :
    gather (record.step take depth) g members = some ⟨role, content⟩ := by
  -- A member takes the first value off the list of its own name, and leaves the others alone.
  induction members generalizing g with
  | nil =>
    cases hasRole.last
    cases hasContent.last
    rfl
  | cons member members ih =>
    obtain ⟨pieces, tree⟩ := member
    obtain ⟨⟨name, spelled⟩, others⟩ := List.forall_mem_cons.mp names
    rw [gather_cons _ _ spelled]
    by_cases isRole : name = "role"
    · subst isRole
      rw [valuesOf_same spelled] at hasRole
      rw [valuesOf_other spelled (by decide)] at hasContent
      obtain ⟨s, unset, text, settled⟩ := hasRole.first
      rw [step_role, unset, text]
      exact ih others settled hasContent
    rw [valuesOf_other spelled isRole] at hasRole
    by_cases isContent : name = "content"
    · subst isContent
      rw [valuesOf_same spelled] at hasContent
      obtain ⟨s, unset, text, settled⟩ := hasContent.first
      rw [step_content, unset, text]
      exact ih others hasRole settled
    · rw [valuesOf_other spelled isContent] at hasContent
      rw [step_other depth g tree isRole isContent]
      exact ih others hasRole hasContent

theorem value?_of_presents {tree : Tree} {m : Message} (presents : Presents tree m) (depth : Nat) :
    record.value? take (depth + 1) tree = some m := by
  cases presents with
  | object names hasRole isRole hasContent isContent =>
    have gathered := gather_of_settled (g := {}) depth names
      (.inr ⟨rfl, _, _, hasRole, isRole, rfl⟩) (.inr ⟨rfl, _, _, hasContent, isContent, rfl⟩)
    have start : record.start = {} := rfl
    rw [Record.value?, start, gathered]
    rfl
  | list isRole isContent =>
    simp [Record.value?, record, Record.fill, take, Tree.text?, isRole, isContent]
    rfl

theorem mapM_of_presents {items : List Tree} {messages : List Message}
    (present : List.Forall₂ Presents items messages) (depth : Nat) :
    items.mapM (record.value? take (depth + 1)) = some messages :=
  mapM_eq_some_iff.mpr (present.imp fun _ _ presents => value?_of_presents presents depth)

end Message

/-! ## Requests -/

namespace Request

/-- The values given for a temperature: none, or one number that is in range. -/
def AreTemperature (values : List Tree) : Prop :=
  values = [] ∨ ∃ n x, values = [.number n] ∧ n.value = .ok x

inductive Presents : Tree → String → List Message → Prop where
  | object {members : List (List Piece × Tree)} {model : String} {messages : List Message}
      {pieces : List Piece} {items : List Tree} (names : NamesAreText members)
      (hasModel : valuesOf "model" members = [.string pieces])
      (isModel : textOf? pieces = some model)
      (hasMessages : valuesOf "messages" members = [.array items])
      (areMessages : List.Forall₂ Message.Presents items messages)
      (temperature : AreTemperature (valuesOf "temperature" members)) :
      Presents (.object members) model messages
  | list {model : String} {messages : List Message} {pieces : List Piece} {items rest : List Tree}
      (isModel : textOf? pieces = some model)
      (areMessages : List.Forall₂ Message.Presents items messages)
      (temperature : AreTemperature rest) :
      Presents (.array (.string pieces :: .array items :: rest)) model messages

/-- What a field takes from a tree. -/
def take (name : String) (depth : Nat) (g : Gathered) (tree : Tree) : Option Gathered :=
  if name = "model" then tree.text?.map fun s => { g with model := some s }
  else if name = "messages" then
    (tree.list? (Message.record.value? Message.take) depth).map fun ms =>
      { g with messages := some ms }
  else tree.single?.map fun t => { g with temperature := some t }

theorem reads_request (depth : Nat) :
    Reads Lays (Request.decoder depth) (record.value? take depth) := by
  apply Record.reads_record
  intro f member depth g
  simp only [record, List.mem_cons, List.not_mem_nil, or_false] at member
  rcases member with rfl | rfl | rfl
  · exact (reads_string depth).map _
  · exact (reads_list Message.reads_message depth).map _
  · exact (reads_single depth).map _

section Steps

variable (depth : Nat) (g : Gathered) (tree : Tree)

theorem step_model : record.step take depth g "model" tree =
    if g.model.isSome then none else tree.text?.map fun s => { g with model := some s } := rfl

theorem step_messages : record.step take depth g "messages" tree =
    if g.messages.isSome then none
    else (tree.list? (Message.record.value? Message.take) depth).map fun ms =>
      { g with messages := some ms } := rfl

theorem step_temperature : record.step take depth g "temperature" tree =
    if g.temperature.isSome then none
    else tree.single?.map fun t => { g with temperature := some t } := rfl

theorem step_other {name : String} (noModel : name ≠ "model") (noMessages : name ≠ "messages")
    (noTemperature : name ≠ "temperature") : record.step take depth g name tree = some g := by
  simp [Record.step, Record.field?, record, noModel.symm, noMessages.symm, noTemperature.symm]

end Steps

theorem gather_of_settled {members : List (List Piece × Tree)} {g : Gathered}
    {model : Option String} {messages : Option (List Message)} {temperature : Option Binary32}
    (depth : Nat) (names : NamesAreText members)
    (hasModel : Settled Tree.text? g.model (valuesOf "model" members) model)
    (hasMessages : Settled (Tree.list? (Message.record.value? Message.take) depth) g.messages
      (valuesOf "messages" members) messages)
    (hasTemperature : Settled Tree.single? g.temperature (valuesOf "temperature" members)
      temperature) :
    gather (record.step take depth) g members = some ⟨model, messages, temperature⟩ := by
  induction members generalizing g with
  | nil =>
    cases hasModel.last
    cases hasMessages.last
    cases hasTemperature.last
    rfl
  | cons member members ih =>
    obtain ⟨pieces, tree⟩ := member
    obtain ⟨⟨name, spelled⟩, others⟩ := List.forall_mem_cons.mp names
    rw [gather_cons _ _ spelled]
    by_cases isModel : name = "model"
    · subst isModel
      rw [valuesOf_same spelled] at hasModel
      rw [valuesOf_other spelled (by decide)] at hasMessages hasTemperature
      obtain ⟨s, unset, text, settled⟩ := hasModel.first
      rw [step_model, unset, text]
      exact ih others settled hasMessages hasTemperature
    rw [valuesOf_other spelled isModel] at hasModel
    by_cases isMessages : name = "messages"
    · subst isMessages
      rw [valuesOf_same spelled] at hasMessages
      rw [valuesOf_other spelled (by decide)] at hasTemperature
      obtain ⟨ms, unset, list, settled⟩ := hasMessages.first
      rw [step_messages, unset, list]
      exact ih others hasModel settled hasTemperature
    rw [valuesOf_other spelled isMessages] at hasMessages
    by_cases isTemperature : name = "temperature"
    · subst isTemperature
      rw [valuesOf_same spelled] at hasTemperature
      obtain ⟨t, unset, single, settled⟩ := hasTemperature.first
      rw [step_temperature, unset, single]
      exact ih others hasModel hasMessages settled
    · rw [valuesOf_other spelled isTemperature] at hasTemperature
      rw [step_other depth g tree isModel isMessages isTemperature]
      exact ih others hasModel hasMessages hasTemperature

theorem AreTemperature.settled {values : List Tree} (temperature : AreTemperature values) :
    ∃ t, Settled Tree.single? none values t := by
  rcases temperature with rfl | ⟨n, x, rfl, value⟩
  · exact ⟨none, .inl ⟨rfl, rfl⟩⟩
  · have single : (Tree.number n).single? = some (Decoder.toSingle x) := by
      simp [Tree.single?, value, Except.toOption]
    exact ⟨_, .inr ⟨rfl, _, _, rfl, single, rfl⟩⟩

theorem value?_of_presents {tree : Tree} {model : String} {messages : List Message}
    (presents : Presents tree model messages) (depth : Nat) :
    ∃ t, record.value? take (depth + 3) tree = some ⟨model, messages, t⟩ := by
  cases presents with
  | @object members _ _ pieces items names hasModel isModel hasMessages areMessages temperature =>
    obtain ⟨t, hasTemperature⟩ := temperature.settled
    have list : (Tree.array items).list? (Message.record.value? Message.take) (depth + 2) =
        some messages := Message.mapM_of_presents areMessages depth
    have gathered := gather_of_settled (g := {}) (depth + 2) names
      (.inr ⟨rfl, _, _, hasModel, isModel, rfl⟩) (.inr ⟨rfl, _, _, hasMessages, list, rfl⟩)
      hasTemperature
    have start : record.start = {} := rfl
    exact ⟨t.getD defaultTemperature, by rw [Record.value?, start, gathered]; rfl⟩
  | @list _ _ pieces items rest isModel areMessages temperature =>
    have list : (Tree.array items).list? (Message.record.value? Message.take) (depth + 2) =
        some messages := Message.mapM_of_presents areMessages depth
    rcases temperature with rfl | ⟨n, x, rfl, value⟩
    · refine ⟨defaultTemperature, ?_⟩
      simp [Record.value?, record, Record.fill, take, Tree.text?, isModel, list]
      rfl
    · refine ⟨Decoder.toSingle x, ?_⟩
      simp [Record.value?, record, Record.fill, take, Tree.text?, Tree.single?, isModel, list,
        value]
      rfl

/-- A text that lays out a tree which presents a model and messages is decoded to them. -/
theorem decode_of_presents {before text after : List Char} {tree : Tree} {model : String}
    {messages : List Message} (front : IsBlank before) (lays : Lays text tree)
    (back : IsBlank after) (presents : Presents tree model messages) :
    ∃ t, decoder.run (Text.symbols (before ++ text ++ after)) = .ok ⟨model, messages, t⟩ := by
  -- A request opens three levels, so the limit on the depth is never met.
  obtain ⟨t, value⟩ := value?_of_presents presents 124
  exact ⟨t, readDocument_of_reads (reads_request depthLimit) front lays back value⟩

end Request

end CitedAnswers.Chat
