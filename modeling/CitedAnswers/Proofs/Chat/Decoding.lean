import CitedAnswers.Proofs.Chat.Codec

/-! # What is decoded and what is refused

A body that lays out an object is decoded exactly if the object presents a request
(`decodes_iff_presents`): nothing but its model, its messages and a temperature has a part in that.
So any layout of the same model and messages is decoded to the same request, and a model, messages,
a role or a content that is missing or there twice is refused (`decode_of_layout`).
-/

namespace CitedAnswers.Chat

open CitedAnswers.Json
open CitedAnswers.Number (Binary32)
open CitedAnswers.Text (symbols)

theorem eq_string_of_text? {tree : Tree} {s : String} (text : tree.text? = some s) :
    ∃ pieces, tree = .string pieces ∧ textOf? pieces = some s := by
  cases tree with
  | string pieces => exact ⟨pieces, rfl, text⟩
  | null | bool | number | array | object => cases text

/-! ## Messages -/

namespace Message

/-- What a member adds: its text, where a text of its name has not been there before. -/
theorem step_cases {depth : Nat} {before after : Gathered} {name : String} {tree : Tree}
    (stepped : record.step take depth before name tree = some after) :
    (name = "role" ∧ before.role = none ∧
        ∃ s, tree.text? = some s ∧ { before with role := some s } = after) ∨
      (name = "content" ∧ before.content = none ∧
        ∃ s, tree.text? = some s ∧ { before with content := some s } = after) ∨
      (name ≠ "role" ∧ name ≠ "content" ∧ after = before) := by
  by_cases isRole : name = "role"
  · subst isRole
    rw [step_role] at stepped
    exact .inl ⟨rfl, eq_some_of_unset stepped⟩
  by_cases isContent : name = "content"
  · subst isContent
    rw [step_content] at stepped
    exact .inr (.inl ⟨rfl, eq_some_of_unset stepped⟩)
  · rw [step_other depth before tree isRole isContent] at stepped
    exact .inr (.inr ⟨isRole, isContent, (Option.some.inj stepped).symm⟩)

section Members

variable {depth : Nat} {start gathered : Gathered} {members : List (List Piece × Tree)}

theorem settled_role (found : gather (record.step take depth) start members = some gathered) :
    Settled Tree.text? start.role (valuesOf "role" members) gathered.role := by
  refine settled_of_gather Gathered.role ?_ ?_ found
  · intro before tree after stepped
    obtain ⟨-, unset, s, text, rfl⟩ | ⟨same, -⟩ | ⟨other, -⟩ := step_cases stepped
    · exact ⟨s, unset, text, rfl⟩
    · exact absurd same (by decide)
    · exact absurd rfl other
  · intro before name tree after other stepped
    obtain ⟨same, -⟩ | ⟨-, -, s, -, rfl⟩ | ⟨-, -, rfl⟩ := step_cases stepped
    · exact absurd same other
    · rfl
    · rfl

theorem settled_content (found : gather (record.step take depth) start members = some gathered) :
    Settled Tree.text? start.content (valuesOf "content" members) gathered.content := by
  refine settled_of_gather Gathered.content ?_ ?_ found
  · intro before tree after stepped
    obtain ⟨same, -⟩ | ⟨-, unset, s, text, rfl⟩ | ⟨-, other, -⟩ := step_cases stepped
    · exact absurd same (by decide)
    · exact ⟨s, unset, text, rfl⟩
    · exact absurd rfl other
  · intro before name tree after other stepped
    obtain ⟨-, -, s, -, rfl⟩ | ⟨same, -⟩ | ⟨-, -, rfl⟩ := step_cases stepped
    · rfl
    · exact absurd same other
    · rfl

end Members

/-- A tree has a message as its value exactly if it presents the message. -/
theorem value?_eq_some_iff {depth : Nat} {tree : Tree} {m : Message} :
    record.value? take (depth + 1) tree = some m ↔ Presents tree m := by
  constructor
  · intro found
    cases tree with
    | null | bool | number | string => cases found
    | array items =>
      obtain ⟨gathered, filled, finished⟩ := Option.bind_eq_some_iff.mp found
      rcases items with _ | ⟨first, _ | ⟨second, _ | ⟨third, rest⟩⟩⟩
      · cases filled
      · simp [record, Record.fill] at filled
      · obtain ⟨_, hasRole, others⟩ := Option.bind_eq_some_iff.mp filled
        obtain ⟨_, hasContent, ended⟩ := Option.bind_eq_some_iff.mp others
        obtain ⟨role, isRole, rfl⟩ := Option.map_eq_some_iff.mp hasRole
        obtain ⟨content, isContent, rfl⟩ := Option.map_eq_some_iff.mp hasContent
        obtain ⟨_, rfl, isRole⟩ := eq_string_of_text? isRole
        obtain ⟨_, rfl, isContent⟩ := eq_string_of_text? isContent
        cases ended
        cases finished
        exact .list isRole isContent
      · simp [record, Record.fill] at filled
    | object members =>
      obtain ⟨⟨role, content⟩, gathered, finished⟩ := Option.bind_eq_some_iff.mp found
      have names := namesAreText_of_gather gathered
      have hasRole := settled_role gathered
      have hasContent := settled_content gathered
      cases role with
      | none => cases finished
      | some role =>
        cases content with
        | none => cases finished
        | some content =>
          obtain ⟨_, onceRole, isRole⟩ := hasRole.once
          obtain ⟨_, onceContent, isContent⟩ := hasContent.once
          obtain ⟨_, rfl, isRole⟩ := eq_string_of_text? isRole
          obtain ⟨_, rfl, isContent⟩ := eq_string_of_text? isContent
          cases finished
          exact .object names onceRole isRole onceContent isContent
  · intro presents
    exact value?_of_presents presents depth

end Message

/-! ## Requests -/

namespace Request

/-- What a member adds: its value, where one of its name has not been there before. -/
theorem step_cases {depth : Nat} {before after : Gathered} {name : String} {tree : Tree}
    (stepped : record.step take depth before name tree = some after) :
    (name = "model" ∧ before.model = none ∧
        ∃ s, tree.text? = some s ∧ { before with model := some s } = after) ∨
      (name = "messages" ∧ before.messages = none ∧
        ∃ ms, tree.list? (Message.record.value? Message.take) depth = some ms ∧
          { before with messages := some ms } = after) ∨
      (name = "temperature" ∧ before.temperature = none ∧
        ∃ t, tree.single? = some t ∧ { before with temperature := some t } = after) ∨
      (name ≠ "model" ∧ name ≠ "messages" ∧ name ≠ "temperature" ∧ after = before) := by
  by_cases isModel : name = "model"
  · subst isModel
    rw [step_model] at stepped
    exact .inl ⟨rfl, eq_some_of_unset stepped⟩
  by_cases isMessages : name = "messages"
  · subst isMessages
    rw [step_messages] at stepped
    exact .inr (.inl ⟨rfl, eq_some_of_unset stepped⟩)
  by_cases isTemperature : name = "temperature"
  · subst isTemperature
    rw [step_temperature] at stepped
    exact .inr (.inr (.inl ⟨rfl, eq_some_of_unset stepped⟩))
  · rw [step_other depth before tree isModel isMessages isTemperature] at stepped
    exact .inr (.inr (.inr ⟨isModel, isMessages, isTemperature, (Option.some.inj stepped).symm⟩))

section Members

variable {depth : Nat} {start gathered : Gathered} {members : List (List Piece × Tree)}

theorem settled_model (found : gather (record.step take depth) start members = some gathered) :
    Settled Tree.text? start.model (valuesOf "model" members) gathered.model := by
  refine settled_of_gather Gathered.model ?_ ?_ found
  · intro before tree after stepped
    obtain ⟨-, unset, s, text, rfl⟩ | ⟨same, -⟩ | ⟨same, -⟩ | ⟨other, -⟩ := step_cases stepped
    · exact ⟨s, unset, text, rfl⟩
    · exact absurd same (by decide)
    · exact absurd same (by decide)
    · exact absurd rfl other
  · intro before name tree after other stepped
    obtain ⟨same, -⟩ | ⟨-, -, _, -, rfl⟩ | ⟨-, -, _, -, rfl⟩ | ⟨-, -, -, rfl⟩ :=
      step_cases stepped
    · exact absurd same other
    · rfl
    · rfl
    · rfl

theorem settled_messages (found : gather (record.step take depth) start members = some gathered) :
    Settled (Tree.list? (Message.record.value? Message.take) depth) start.messages
      (valuesOf "messages" members) gathered.messages := by
  refine settled_of_gather Gathered.messages ?_ ?_ found
  · intro before tree after stepped
    obtain ⟨same, -⟩ | ⟨-, unset, ms, list, rfl⟩ | ⟨same, -⟩ | ⟨-, other, -⟩ :=
      step_cases stepped
    · exact absurd same (by decide)
    · exact ⟨ms, unset, list, rfl⟩
    · exact absurd same (by decide)
    · exact absurd rfl other
  · intro before name tree after other stepped
    obtain ⟨-, -, _, -, rfl⟩ | ⟨same, -⟩ | ⟨-, -, _, -, rfl⟩ | ⟨-, -, -, rfl⟩ :=
      step_cases stepped
    · rfl
    · exact absurd same other
    · rfl
    · rfl

theorem settled_temperature
    (found : gather (record.step take depth) start members = some gathered) :
    Settled Tree.single? start.temperature (valuesOf "temperature" members)
      gathered.temperature := by
  refine settled_of_gather Gathered.temperature ?_ ?_ found
  · intro before tree after stepped
    obtain ⟨same, -⟩ | ⟨same, -⟩ | ⟨-, unset, t, single, rfl⟩ | ⟨-, -, other, -⟩ :=
      step_cases stepped
    · exact absurd same (by decide)
    · exact absurd same (by decide)
    · exact ⟨t, unset, single, rfl⟩
    · exact absurd rfl other
  · intro before name tree after other stepped
    obtain ⟨-, -, _, -, rfl⟩ | ⟨-, -, _, -, rfl⟩ | ⟨same, -⟩ | ⟨-, -, -, rfl⟩ :=
      step_cases stepped
    · rfl
    · rfl
    · exact absurd same other
    · rfl

end Members

theorem areTemperature_of_settled {values : List Tree} {t : Option Binary32}
    (settled : Settled Tree.single? none values t) : AreTemperature values := by
  rcases settled with ⟨rfl, -⟩ | ⟨-, tree, b, rfl, single, -⟩
  · exact .inl rfl
  · cases tree with
    | number n =>
      obtain ⟨x, value, -⟩ := Option.map_eq_some_iff.mp single
      refine .inr ⟨n, x, rfl, ?_⟩
      cases inRange : n.value with
      | error e => simp [inRange, Except.toOption] at value
      | ok y => simpa [inRange, Except.toOption] using value
    | null | bool | string | array | object => cases single

theorem eq_array_of_list? {α : Type} {value : Nat → Tree → Option α} {depth : Nat} {tree : Tree}
    {as : List α} (list : tree.list? value (depth + 1) = some as) :
    ∃ items, tree = .array items ∧ items.mapM (value depth) = some as := by
  cases tree with
  | array items => exact ⟨items, rfl, list⟩
  | null | bool | number | string | object => cases list

theorem finish_cases {g : Gathered} {request : Request}
    (finished : (record.finish g).toOption = some request) :
    g.model = some request.model ∧ g.messages = some request.messages ∧
      g.temperature.getD defaultTemperature = request.temperature := by
  obtain ⟨_ | model, _ | messages, temperature⟩ := g
  · cases finished
  · cases finished
  · cases finished
  · cases finished
    exact ⟨rfl, rfl, rfl⟩

/-- What is decoded of an object is a request that the object presents. -/
theorem presents_of_value? {depth : Nat} {members : List (List Piece × Tree)} {request : Request}
    (found : record.value? take (depth + 3) (.object members) = some request) :
    Presents (.object members) request.model request.messages := by
  obtain ⟨g, gathered, finished⟩ := Option.bind_eq_some_iff.mp found
  obtain ⟨model, messages, -⟩ := finish_cases finished
  have hasModel := settled_model gathered
  have hasMessages := settled_messages gathered
  rw [model] at hasModel
  rw [messages] at hasMessages
  obtain ⟨_, onceModel, isModel⟩ := hasModel.once
  obtain ⟨_, onceMessages, areMessages⟩ := hasMessages.once
  obtain ⟨_, rfl, isModel⟩ := eq_string_of_text? isModel
  obtain ⟨_, rfl, areMessages⟩ := eq_array_of_list? areMessages
  exact .object (namesAreText_of_gather gathered) onceModel isModel onceMessages
    ((mapM_eq_some_iff.mp areMessages).imp fun _ _ => Message.value?_eq_some_iff.mp)
    (areTemperature_of_settled (settled_temperature gathered))

/-- Where an object has no temperature, the default one is decoded. -/
theorem temperature_of_value? {depth : Nat} {members : List (List Piece × Tree)}
    {request : Request}
    (found : record.value? take (depth + 1) (.object members) = some request)
    (noTemperature : valuesOf "temperature" members = []) :
    request.temperature = defaultTemperature := by
  obtain ⟨g, gathered, finished⟩ := Option.bind_eq_some_iff.mp found
  obtain ⟨-, -, temperature⟩ := finish_cases finished
  have settled := settled_temperature gathered
  rw [noTemperature] at settled
  have unset : g.temperature = none := settled.last
  rw [← temperature, unset, Option.getD_none]

section Layouts

variable {before text after : List Char} {members : List (List Piece × Tree)}
  (front : IsBlank before) (lays : Lays text (.object members)) (back : IsBlank after)

include front lays back

theorem decodes_iff_presents {model : String} {messages : List Message} :
    (∃ t, decoder.run (symbols (before ++ text ++ after)) = .ok ⟨model, messages, t⟩) ↔
      Presents (.object members) model messages := by
  constructor
  · rintro ⟨t, decoded⟩
    have found : record.value? take (124 + 3) (.object members) = some ⟨model, messages, t⟩ :=
      value_of_readDocument (reads_request depthLimit) front lays back decoded
    exact presents_of_value? found
  · intro presents
    exact decode_of_presents front lays back presents

end Layouts

/-! ### Flaws -/

/-- One of these members is missing from an object, or is there twice. -/
def LacksOrRepeats (names : List String) (members : List (List Piece × Tree)) : Prop :=
  ∃ name ∈ names, (valuesOf name members).length ≠ 1

/-- The object of a request lacks or repeats one of its members, or the object of a message does. -/
inductive IsFlawed (members : List (List Piece × Tree)) : Prop where
  | request (flaw : LacksOrRepeats ["model", "messages"] members)
  | message {items : List Tree} {inner : List (List Piece × Tree)}
      (hasMessages : .array items ∈ valuesOf "messages" members) (item : .object inner ∈ items)
      (flaw : LacksOrRepeats ["role", "content"] inner)

theorem not_lacksOrRepeats_iff {name other : String} {members : List (List Piece × Tree)} :
    ¬LacksOrRepeats [name, other] members ↔
      (valuesOf name members).length = 1 ∧ (valuesOf other members).length = 1 := by
  simp [LacksOrRepeats]

theorem not_isFlawed_of_presents {members : List (List Piece × Tree)} {model : String}
    {messages : List Message} (presents : Presents (.object members) model messages) :
    ¬IsFlawed members := by
  cases presents with
  | object names hasModel isModel hasMessages areMessages temperature =>
    rintro (flaw | ⟨messagesHere, item, flaw⟩)
    · refine not_lacksOrRepeats_iff.mpr ⟨?_, ?_⟩ flaw
      · rw [hasModel, List.length_singleton]
      · rw [hasMessages, List.length_singleton]
    · rw [hasMessages] at messagesHere
      cases List.mem_singleton.mp messagesHere
      obtain ⟨i, inItems, here⟩ := List.getElem_of_mem item
      have presents := areMessages.get inItems (areMessages.length_eq ▸ inItems)
      rw [List.get_eq_getElem, here] at presents
      generalize messages.get _ = m at presents
      cases presents with
      | object names hasRole isRole hasContent isContent =>
        refine not_lacksOrRepeats_iff.mpr ⟨?_, ?_⟩ flaw
        · rw [hasRole, List.length_singleton]
        · rw [hasContent, List.length_singleton]

/-- However a text lays out an object, what is decoded of it is the model and the messages that the
object presents; a flawed object is refused. -/
theorem decode_of_layout {before text after : List Char} {members : List (List Piece × Tree)}
    (front : IsBlank before) (lays : Lays text (.object members)) (back : IsBlank after) :
    (∀ (model : String) (turns : List (String × String)),
      Presents (.object members) model
        (turns.map fun (role, content) => ⟨.ofName role, content⟩) →
      valuesOf "temperature" members = [] →
      decoder.run (symbols (before ++ text ++ after)) =
        .ok ⟨model, turns.map fun (role, content) => ⟨.ofName role, content⟩,
          defaultTemperature⟩) ∧
    (IsFlawed members → ∃ e, decoder.run (symbols (before ++ text ++ after)) = .error e) := by
  constructor
  · intro model turns presents noTemperature
    obtain ⟨t, decoded⟩ := decode_of_presents front lays back presents
    have found := value_of_readDocument (reads_request depthLimit) front lays back decoded
    rw [decoded, ← temperature_of_value? found noTemperature]
  · intro flawed
    cases decoded : decoder.run (symbols (before ++ text ++ after)) with
    | error e => exact ⟨e, rfl⟩
    | ok request =>
      have presents := (decodes_iff_presents front lays back).mp ⟨_, decoded⟩
      exact absurd flawed (not_isFlawed_of_presents presents)

/-- The text of a request whose members come in another order, with one that is of no account, and
with a message in each form. -/
def mixedForms : List Char :=
  renderChars (.object [("x", .array [.null]),
    ("messages", .array [.array [.string "user", .string "\n"],
      .object [("content", .string "b"), ("role", .string "guest")]]),
    ("model", .string "m")])

/-- The text of a request with a message that has two roles. -/
def twoRoles : List Char :=
  renderChars (.object [("model", .string "m"), ("messages", .array [
    .object [("role", .string "user"), ("content", .string "b"), ("role", .string "user")]])])

theorem decode_of_layout_mixedForms :
    decoder.run (symbols (' ' :: mixedForms ++ ['\n'])) =
        .ok ⟨"m", [⟨.user, "\n"⟩, ⟨.other "guest", "b"⟩], defaultTemperature⟩ ∧
      ∃ e, decoder.run (symbols twoRoles) = .error e := by
  have front : IsBlank [' '] := by simp [IsBlank]
  have back : IsBlank ['\n'] := by simp [IsBlank]
  constructor
  · have turn : Lays (renderChars (.array [.string "user", .string "\n"])) _ :=
      lays_array (.cons (lays_string "user") (.cons (lays_string "\n") .nil))
    have message : Lays (renderChars (.object [("content", .string "b"),
        ("role", .string "guest")])) _ :=
      lays_object (.cons (named_of_lays "content" (lays_string "b"))
        (.cons (named_of_lays "role" (lays_string "guest")) .nil))
    have nothing : Lays (renderChars (.array [.null])) _ := lays_array (.cons .null .nil)
    have lays : Lays mixedForms _ := lays_object (.cons (named_of_lays "x" nothing)
      (.cons (named_of_lays "messages" (lays_array (.cons turn (.cons message .nil))))
        (.cons (named_of_lays "model" (lays_string "m")) .nil)))
    refine (decode_of_layout front lays back).1 "m" [("user", "\n"), ("guest", "b")] ?_ rfl
    have names := namesAreText_of_written [("content", .string (piecesOf ['b'])),
      ("role", .string (piecesOf "guest".toList))]
    exact .object (namesAreText_of_written [("x", .array [.null]), ("messages", _), ("model", _)])
      rfl (textOf?_piecesOf "m") rfl
      (.cons (.list (textOf?_piecesOf "user") (textOf?_piecesOf "\n"))
        (.cons (.object names rfl (textOf?_piecesOf "guest") rfl (textOf?_piecesOf "b")) .nil))
      (.inl rfl)
  · have message : Lays (renderChars (.object [("role", .string "user"), ("content", .string "b"),
        ("role", .string "user")])) _ :=
      lays_object (.cons (named_of_lays "role" (lays_string "user"))
        (.cons (named_of_lays "content" (lays_string "b"))
          (.cons (named_of_lays "role" (lays_string "user")) .nil)))
    have lays : Lays twoRoles _ := lays_object (.cons (named_of_lays "model" (lays_string "m"))
      (.cons (named_of_lays "messages" (lays_array (.cons message .nil))) .nil))
    have refused := (decode_of_layout isBlank_nil lays isBlank_nil).2
    rw [List.nil_append, List.append_nil] at refused
    refine refused (.message (List.mem_singleton.mpr rfl) (List.mem_singleton.mpr rfl) ?_)
    exact ⟨"role", List.mem_cons_self, by decide⟩

end Request

end CitedAnswers.Chat
