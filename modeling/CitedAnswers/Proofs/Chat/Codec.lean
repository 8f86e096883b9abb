import CitedAnswers.Chat.Completion
import CitedAnswers.Proofs.Chat.Presentations
import CitedAnswers.Proofs.Json.Rendering

/-! # Messages written and read

A message whose role is one that names stand for is read back as it was written (`run_toJson`), and
every message that was read has such a role, alone (`isNamed_of_decoder`) or in a request
(`isNamed_of_request`).  A role that is kept under a name of its own would be read back as another
one: no name stands for it.
-/

namespace CitedAnswers.Chat

open CitedAnswers.Json
open CitedAnswers.Text (Symbol symbols)

/-! ## Roles -/

namespace Role

/-- Whether some name stands for the role. -/
def IsNamed (r : Role) : Prop :=
  ofName r.name = r

theorem isNamed_ofName (n : String) : (ofName n).IsNamed := by
  rw [IsNamed, name_ofName]

theorem not_mem_of_isNamed {n : String} (named : (other n).IsNamed) :
    n ∉ ["system", "user", "assistant", "tool"] := by
  intro own
  simp only [List.mem_cons, List.not_mem_nil, or_false] at own
  rcases own with rfl | rfl | rfl | rfl <;> cases named

theorem ofName_eq_user_iff (n : String) : ofName n = .user ↔ n = "user" := by
  constructor
  · intro isUser
    rw [← name_ofName n, isUser]
    rfl
  · rintro rfl
    rfl

end Role

/-! ## Messages -/

/-- Names that were written are text. -/
theorem namesAreText_of_written (members : List (String × Tree)) :
    NamesAreText (members.map fun (name, tree) => (piecesOf name.toList, tree)) := by
  intro member inside
  obtain ⟨⟨name, tree⟩, -, rfl⟩ := List.mem_map.mp inside
  exact ⟨name, textOf?_piecesOf name⟩

namespace Message

/-- The tree that a message is written as. -/
def tree (m : Message) : Tree :=
  .object [(piecesOf "role".toList, .string (piecesOf m.role.name.toList)),
    (piecesOf "content".toList, .string (piecesOf m.content.toList))]

theorem lays_tree (m : Message) : Lays (renderChars m.toJson) m.tree :=
  lays_object (.cons (named_of_lays "role" (lays_string m.role.name))
    (.cons (named_of_lays "content" (lays_string m.content)) .nil))

theorem presents_tree {m : Message} (named : m.role.IsNamed) : Presents m.tree m := by
  have names := namesAreText_of_written
    [("role", .string (piecesOf m.role.name.toList)),
      ("content", .string (piecesOf m.content.toList))]
  have presents := Presents.object names rfl (textOf?_piecesOf m.role.name) rfl
    (textOf?_piecesOf m.content)
  rw [named] at presents
  exact presents

/-- A message is read back as it was written. -/
theorem run_toJson {m : Message} (named : m.role.IsNamed) :
    decoder.run (symbols m.toJson.render.toList) = .ok m := by
  -- A message opens one level, so the limit on the depth is never met.
  have value := value?_of_presents (presents_tree named) 126
  exact readDocument_render (reads_message depthLimit) m.lays_tree value

theorem parse_toJson (m : Message) :
    parse m.toJson.render =
      .ok (.object [("content", .string m.content), ("role", .string m.role.name)]) :=
  parse_render rfl

theorem isNamed_of_decoder {depth : Nat} {text rest : List Symbol} {m : Message}
    (ok : decoder depth text = .ok (m, rest)) : m.role.IsNamed := by
  obtain ⟨g, -, finished⟩ :=
    Record.finish_of_decoder (P := fun _ => True) (by simp) trivial ok
  obtain ⟨_ | role, _ | content⟩ := g
  · cases finished
  · cases finished
  · cases finished
  · cases finished
    exact Role.isNamed_ofName role

theorem isNamed_of_run {text : List Symbol} {m : Message} (read : decoder.run text = .ok m) :
    m.role.IsNamed := by
  obtain ⟨rest, read⟩ := ok_of_readDocument read
  exact isNamed_of_decoder read

end Message

/-! ## Requests -/

/-- The messages of a request that was read have roles that names stand for. -/
theorem isNamed_of_request {text : List Symbol} {q : Request}
    (read : Request.decoder.run text = .ok q) : ∀ m ∈ q.messages, m.role.IsNamed := by
  obtain ⟨rest, read⟩ := ok_of_readDocument read
  have kept : ∀ f ∈ Request.record.fields, ∀ {depth g text g' rest},
      (∀ ms, g.messages = some ms → ∀ m ∈ ms, m.role.IsNamed) →
      f.read depth g text = .ok (g', rest) →
        ∀ ms, g'.messages = some ms → ∀ m ∈ ms, m.role.IsNamed := by
    intro f member depth g text g' rest named read
    simp only [Request.record, List.mem_cons, List.not_mem_nil, or_false] at member
    rcases member with rfl | rfl | rfl
    · obtain ⟨_, -, rfl⟩ := ok_of_mapResult read
      exact named
    · obtain ⟨_, list, rfl⟩ := ok_of_mapResult read
      rintro _ ⟨⟩
      exact forall_of_list Message.isNamed_of_decoder list
    · obtain ⟨_, -, rfl⟩ := ok_of_mapResult read
      exact named
  obtain ⟨g, named, finished⟩ := Record.finish_of_decoder kept (by rintro _ ⟨⟩) read
  obtain ⟨_ | model, _ | messages, temperature⟩ := g
  · cases finished
  · cases finished
  · cases finished
  · cases finished
    exact named messages rfl

/-! ## The active question -/

/-- Only a message whose role has the name of the user is one of the user. -/
theorem lastUserText?_ofName (turns : List (String × String)) :
    lastUserText? (turns.map fun (role, content) => ⟨.ofName role, content⟩) =
      ((turns.reverse.find? (·.1 = "user")).map Prod.snd).filter (· ≠ "") := by
  unfold lastUserText?
  rw [← List.map_reverse, List.find?_map]
  have isUser : ((fun m : Message => decide (m.role = .user)) ∘
      fun (turn : String × String) => ⟨.ofName turn.1, turn.2⟩) =
        fun turn => decide (turn.1 = "user") := by
    funext turn
    exact decide_eq_decide.mpr (Role.ofName_eq_user_iff turn.1)
  rw [isUser]
  cases turns.reverse.find? (fun turn => decide (turn.1 = "user")) with
  | none => rfl
  | some turn =>
    obtain ⟨role, content⟩ := turn
    by_cases empty : content = "" <;> simp [empty, Option.filter]

end CitedAnswers.Chat
