import CitedAnswers.Proofs.Answering.Ways
import CitedAnswers.Proofs.Chat.Codec
import CitedAnswers.Proofs.Json.Notations
import CitedAnswers.Proofs.Remote.Refinement
import CitedAnswers.Proofs.Remote.Shapes

/-! # Conversations that are sent

A completion is asked for with the prompt that was made of the conversation (`prompt_of_complete`),
and the document that is sent for it holds just these messages, whatever characters they have and
however the temperature is written (`run_completionDocument`).  The conversation of a request that
was received has only roles that are read back, so what is sent is what was received, between the
instructions and the context (`received_is_sent`).
-/

namespace CitedAnswers.Remote

open CitedAnswers.Answering
open CitedAnswers.Chat (Message Role namesAreText_of_written)
open CitedAnswers.Json
open CitedAnswers.Number (Binary32)
open CitedAnswers.Text (Charsets Symbol symbols)

/-! ## Prompts -/

theorem not_complete_of_redacts {language question : String} {redaction : List Exchange}
    {result : Except ServiceError String} (redacts : Redacts language question redaction result)
    (messages : List Message) (temperature : Binary32) :
    .complete messages temperature ∉ redaction.map Exchange.call := by
  cases redacts <;> simp

/-- A turn has a completion only from the prompt that is made of its conversation. -/
theorem prompt_of_complete {manner : Manner} {conversation messages : List Message}
    {exchanges : List Exchange} {ending : Ending} {temperature : Binary32}
    (runs : (answer manner conversation).Runs exchanges ending)
    (called : .complete messages temperature ∈ exchanges.map Exchange.call) :
    ∃ context, messages = prompt conversation context := by
  have way := way_of_runs runs
  generalize ending.upshot = upshot at way
  cases way with
  | unasked => cases called
  | unredacted _ lost => exact absurd called (not_complete_of_redacts lost _ _)
  | unembedded _ redacted | unfound _ redacted =>
    have other := not_complete_of_redacts redacted messages temperature
    simp_all
  | @uncompleted _ _ _ _ passages _ _ redacted | @completed _ _ _ _ passages _ _ redacted =>
    have other := not_complete_of_redacts redacted messages temperature
    refine ⟨Sources.context passages, ?_⟩
    simp_all [prompt]

theorem isNamed_prompt {conversation : List Message}
    (named : ∀ m ∈ conversation, m.role.IsNamed) (context : String) :
    ∀ m ∈ prompt conversation context, m.role.IsNamed := by
  intro m member
  rcases List.mem_append.mp member with front | last
  · rcases List.mem_cons.mp front with rfl | inside
    · exact Role.isNamed_ofName "system"
    · exact named m inside
  · cases List.mem_singleton.mp last
    exact Role.isNamed_ofName "user"

/-! ## Documents -/

/-- Decodes the messages of the document of a completion. -/
def messagesDecoder : Decoder (List Message) :=
  (soleField "ChatRequest" "messages" (Decoder.list Message.decoder) none false).decoder

/-- The messages of the document of a completion are those it was made of. -/
theorem run_completionDocument (model : String) {conversation : List Message}
    (temperature : Binary32) (named : ∀ m ∈ conversation, m.role.IsNamed) :
    messagesDecoder.run
      (symbols (completionDocument model conversation temperature).render.toList) =
        .ok conversation := by
  obtain ⟨number, laid⟩ := lays_number (.single temperature)
  have items : List.Forall₂ (fun v tree => Lays (renderChars v) tree)
      (conversation.map Message.toJson) (conversation.map Message.tree) := by
    rw [List.forall₂_map_left_iff, List.forall₂_map_right_iff]
    exact List.forall₂_same.mpr fun m _ => m.lays_tree
  have lays : Lays (renderChars (completionDocument model conversation temperature))
      (.object [(piecesOf "model".toList, .string (piecesOf model.toList)),
        (piecesOf "messages".toList, .array (conversation.map Message.tree)),
        (piecesOf "temperature".toList, number)]) :=
    lays_object (.cons (named_of_lays "model" (lays_string model))
      (.cons (named_of_lays "messages" (lays_array items))
        (.cons (named_of_lays "temperature" laid) .nil)))
  have presented : List.Forall₂ Message.Presents (conversation.map Message.tree) conversation := by
    rw [List.forall₂_map_left_iff]
    exact List.forall₂_same.mpr fun m member => Message.presents_tree (named m member)
  have names := namesAreText_of_written [("model", .string (piecesOf model.toList)),
    ("messages", .array (conversation.map Message.tree)), ("temperature", number)]
  have reads : Reads Lays (messagesDecoder depthLimit) _ :=
    reads_soleField (reads_list Message.reads_message) depthLimit
  -- The document opens three levels, so the limit on the depth is never met.
  refine readDocument_render reads lays (soleField_value?_iff.mpr (.member names rfl ?_))
  exact Message.mapM_of_presents presented 124

/-- Messages are read back as they were written, and of those that were read none has a role that
would be read back as another one.  So the conversation that is sent on is the one that was
received, and its active question is found by the names of its roles. -/
theorem received_is_sent :
    (∀ role content,
      Message.decoder.run (symbols (Message.toJson ⟨.ofName role, content⟩).render.toList) =
        .ok ⟨.ofName role, content⟩ ∧
      parse (Message.toJson ⟨.ofName role, content⟩).render =
        .ok (.object [("content", .string content), ("role", .string role)])) ∧
    (∀ text m, Message.decoder.run text = .ok m →
      Message.decoder.run (symbols m.toJson.render.toList) = .ok m ∧
      ∀ name, m.role = .other name → name ∉ ["system", "user", "assistant", "tool"]) ∧
    (∀ received request, Chat.Request.decoder.run received = .ok request →
      ∀ {σ : Type} (charsets : Charsets) (a : Accounts) (transport : Transport σ) (manner : Manner)
          (memory : σ),
        let course := (answer manner request.messages).run
          (services charsets a transport.recording) (memory, [])
        course.memory.2.map Delivery.posting = course.calls.filterMap a.posting? ∧
        ∀ messages temperature, .complete messages temperature ∈ course.calls →
          (∃ context, messages = prompt request.messages context) ∧
          ∀ posting, a.posting? (.complete messages temperature) = some posting →
            messagesDecoder.run (symbols posting.body.toList) = .ok messages) ∧
    (∀ role, Role.ofName role = .user ↔ role = "user") ∧
    ∀ turns : List (String × String),
      Chat.lastUserText? (turns.map fun (role, content) => ⟨.ofName role, content⟩) =
        ((turns.reverse.find? (·.1 = "user")).map Prod.snd).filter (· ≠ "") := by
  refine ⟨fun role content => ⟨?_, ?_⟩, fun text m read => ⟨?_, fun name other => ?_⟩, ?_,
    Role.ofName_eq_user_iff, Chat.lastUserText?_ofName⟩
  · exact Message.run_toJson (Role.isNamed_ofName role)
  · rw [Message.parse_toJson, Role.name_ofName]
  · exact Message.run_toJson (Message.isNamed_of_run read)
  · have named := Message.isNamed_of_run read
    rw [other] at named
    exact Role.not_mem_of_isNamed named
  · intro received request read σ charsets a transport manner memory course
    refine ⟨postings_of_run charsets a transport _ memory [], fun messages temperature called => ?_⟩
    obtain ⟨runs, -⟩ := Dialogue.run_eq_iff.mp (rfl : course = ⟨_, _, _⟩)
    obtain ⟨context, rfl⟩ := prompt_of_complete runs called
    refine ⟨⟨context, rfl⟩, fun posting posted => ?_⟩
    rw [body_of_make? posted]
    exact run_completionDocument a.chatModel temperature
      (isNamed_prompt (Chat.isNamed_of_request read) context)

/-- A transport that brings back replies one after the other. -/
def inOrder : Transport (List Reply) :=
  fun _ replies => (replies.head?, replies.tail)

/-- A request in the form of lists, with an escape in the name of a role. -/
def receivedList : List Symbol :=
  symbols "[\"m\",[[\"\\u0075ser\",\"hi\"]]]".toList

/-- What a completion is asked for with. -/
def completed? : Call → Option (List Message × Binary32)
  | .complete messages temperature => some (messages, temperature)
  | .analyze .. | .anonymize .. | .embed _ | .query .. => none

/-- A turn that comes to a completion. -/
def turnOverReplies (conversation : List Message) : Course (List Reply × List Delivery) Ending :=
  (answer ⟨"en", 3, .finite false 0⟩ conversation).run
    (services .utf8Only someAccounts inOrder.recording)
    ([replyOf "[]", replyOf "[[[[1]]]]", replyOf "[[[]]]"], [])

theorem sent_of_receivedList :
    ∃ request, Chat.Request.decoder.run receivedList = .ok request ∧
      ∃ delivery ∈ (turnOverReplies request.messages).memory.2,
        messagesDecoder.run (symbols delivery.posting.body.toList) =
          .ok (prompt [.user "hi"] "") := by
  have read : Chat.Request.decoder.run receivedList =
      .ok ⟨"m", [.user "hi"], Chat.defaultTemperature⟩ := by decide +kernel
  have called : (turnOverReplies [.user "hi"]).calls.filterMap completed? =
      [(prompt [.user "hi"] "", .finite false 0)] := by decide +kernel
  obtain ⟨call, inside, same⟩ :=
    List.mem_filterMap.mp (called ▸ List.mem_singleton_self (prompt [.user "hi"] "", _))
  cases call with
  | analyze | anonymize | embed | query => cases same
  | complete =>
    cases same
    obtain ⟨handed, sent⟩ : (turnOverReplies [.user "hi"]).memory.2.map Delivery.posting =
        (turnOverReplies [.user "hi"]).calls.filterMap someAccounts.posting? ∧ _ :=
      received_is_sent.2.2.1 _ _ read .utf8Only someAccounts inOrder
        ⟨"en", 3, .finite false 0⟩
        [replyOf "[]", replyOf "[[[[1]]]]", replyOf "[[[]]]"]
    have posted : someAccounts.posting?
        (.complete (prompt [.user "hi"] "") (.finite false 0)) = some _ := rfl
    have member := List.mem_filterMap.mpr ⟨_, inside, posted⟩
    rw [← handed] at member
    obtain ⟨delivery, inside', same⟩ := List.mem_map.mp member
    refine ⟨_, read, delivery, inside', ?_⟩
    rw [same]
    exact (sent _ _ inside).2 _ posted

end CitedAnswers.Remote
