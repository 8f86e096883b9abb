import CitedAnswers.Proofs.Answering.Series

/-! # What services that look things up are told

A turn makes three kinds of calls: it has personal data removed, it looks a text up, and it has an
answer written.  Looking up is a dialogue of its own (`consult`) that is given a text without
personal data and nothing else of the conversation, and a turn whose question came to such a text is
the removal, this dialogue, and what is made of its findings (`consulted_or_not`).

The main statement is `turns_consult_alike`, about two series of turns: where the questions of two
turns came to the same text and lookups are replied to alike, both turns make the same lookups and
go on from the same context and citations, whatever the conversations were.
-/

namespace CitedAnswers.Answering

open CitedAnswers.Chat (Message lastUserText?)
open CitedAnswers.Exchanges (Spot)
open CitedAnswers.Number (Binary32)
open CitedAnswers.Sources (Citation Passage)

/-! ## Lookups -/

/-- Whether a call looks something up: the vector of a text, or passages near a vector. -/
def Call.isLookup : Call → Bool
  | .embed _ => true
  | .query .. => true
  | .analyze .. => false
  | .anonymize .. => false
  | .complete .. => false

def lookupsIn (exchanges : List Exchange) : List Exchange :=
  exchanges.filter fun e => e.call.isLookup

theorem lookupsIn_append (xs ys : List Exchange) :
    lookupsIn (xs ++ ys) = lookupsIn xs ++ lookupsIn ys :=
  List.filter_append xs ys

/-- Whether two series of exchanges are replied to alike: the same call at the same place gets the
same reply. -/
def RepliedAlike (xs ys : List Exchange) : Prop :=
  ∀ (n : Nat) (call : Call) (r₁ r₂ : call.Reply),
    xs[n]? = some ⟨call, r₁⟩ → ys[n]? = some ⟨call, r₂⟩ → r₁ = r₂

section RepliedAlike

variable {xs ys : List Exchange}

theorem repliedAlike_self (xs : List Exchange) : RepliedAlike xs xs := by
  intro n call r₁ r₂ first second
  rw [first] at second
  cases second
  rfl

theorem RepliedAlike.head {call : Call} {r₁ r₂ : call.Reply}
    (alike : RepliedAlike (⟨call, r₁⟩ :: xs) (⟨call, r₂⟩ :: ys)) : r₁ = r₂ :=
  alike 0 call r₁ r₂ rfl rfl

theorem RepliedAlike.second {x y : Exchange} {call : Call} {r₁ r₂ : call.Reply}
    (alike : RepliedAlike (x :: ⟨call, r₁⟩ :: xs) (y :: ⟨call, r₂⟩ :: ys)) : r₁ = r₂ :=
  alike 1 call r₁ r₂ rfl rfl

/-- What is replied to alike as a whole is so in its first part. -/
theorem RepliedAlike.left {xs' ys' : List Exchange}
    (alike : RepliedAlike (xs ++ xs') (ys ++ ys')) : RepliedAlike xs ys := by
  intro n call r₁ r₂ first second
  have inFirst {zs zs' : List Exchange} {e : Exchange} (here : zs[n]? = some e) :
      (zs ++ zs')[n]? = some e := by
    obtain ⟨inside, -⟩ := List.getElem?_eq_some_iff.mp here
    rw [List.getElem?_append_left inside]
    exact here
  exact alike n call r₁ r₂ (inFirst first) (inFirst second)

/-- Behind the same exchanges, what is replied to alike as a whole is so in what follows. -/
theorem RepliedAlike.right {zs : List Exchange} (alike : RepliedAlike (zs ++ xs) (zs ++ ys)) :
    RepliedAlike xs ys := by
  intro n call r₁ r₂ first second
  have behind {ws : List Exchange} : (zs ++ ws)[zs.length + n]? = ws[n]? := by
    rw [List.getElem?_append_right (Nat.le_add_right _ _), Nat.add_sub_cancel_left]
  exact alike (zs.length + n) call r₁ r₂ (behind.trans first) (behind.trans second)

end RepliedAlike

/-! ## Consultations -/

/-- What looking a text up comes to. -/
inductive Findings where
  /-- The text has no vector. -/
  | unlocated
  | nothing
  | evidence (context : String) (citations : List Citation)
  deriving DecidableEq, Repr

/-- Looks a text up. -/
def consult (topK : Nat) (safe : String) : Dialogue Findings := do
  match ← locate safe with
  | none => pure .unlocated
  | some vector =>
    match ← search topK vector with
    | [] => pure .nothing
    | p :: ps => pure (.evidence (Sources.context (p :: ps)) (Citation.collect (p :: ps)))

/-- Goes on with a question from what was found for it. -/
def answerFrom (temperature : Binary32) (conversation : List Message) (question : String) :
    Findings → Dialogue Ending
  | .unlocated => pure .embeddingFailed
  | .nothing => pure .searchFailed
  | .evidence context citations => compose temperature conversation question context citations

theorem Dialogue.bind_assoc {α β γ : Type} (d : Dialogue α) (f : α → Dialogue β)
    (g : β → Dialogue γ) : d >>= f >>= g = d >>= fun a => f a >>= g := by
  change (d.bind f).bind g = d.bind fun a => (f a).bind g
  induction d with
  | done a => rfl
  | ask call reply ih => simp only [Dialogue.bind, ih]

/-- A question is answered from what is found for the text that it came to, and the findings depend
on that text alone. -/
theorem answerQuestion_eq (manner : Manner) (conversation : List Message) (question : String) :
    answerQuestion manner conversation question =
      redact manner.language question >>= fun
        | .error e => pure (.redactionFailed e)
        | .ok safe =>
          consult manner.topK safe >>= answerFrom manner.temperature conversation question := by
  unfold answerQuestion
  refine congrArg _ (funext fun redacted => ?_)
  cases redacted with
  | error e => rfl
  | ok safe =>
    dsimp only
    unfold consult
    rw [Dialogue.bind_assoc]
    refine congrArg _ (funext fun vector? => ?_)
    cases vector? with
    | none => rfl
    | some vector =>
      dsimp only
      rw [Dialogue.bind_assoc]
      refine congrArg _ (funext fun passages => ?_)
      cases passages with
      | nil => rfl
      | cons p ps => rfl

/-- How a text is looked up: the exchanges, and what is found. -/
inductive Consults (topK : Nat) (safe : String) : List Exchange → Findings → Prop
  | unlocated (reply : Except ServiceError (List Binary32)) (none : ∀ vector, ¬Holds reply vector) :
      Consults topK safe [⟨.embed safe, reply⟩] .unlocated
  | nothing (vector : List Binary32) (located : vector ≠ [])
      (reply : Except ServiceError (List Passage)) (none : ∀ passages, ¬Holds reply passages) :
      Consults topK safe [⟨.embed safe, .ok vector⟩, ⟨.query vector topK, reply⟩] .nothing
  | evidence (vector : List Binary32) (located : vector ≠ []) (passages : List Passage)
      (found : passages ≠ []) :
      Consults topK safe [⟨.embed safe, .ok vector⟩, ⟨.query vector topK, .ok passages⟩]
        (.evidence (Sources.context passages) (Citation.collect passages))

section Consults

variable {topK : Nat} {safe : String} {exchanges : List Exchange} {findings : Findings}

theorem consults_of_runs (runs : (consult topK safe).Runs exchanges findings) :
    Consults topK safe exchanges findings := by
  unfold consult at runs
  obtain ⟨_, _, _, rfl, first, behindVector⟩ := Dialogue.runs_bind.mp runs
  obtain ⟨reply, rfl, rfl⟩ := locate_runs.mp first
  cases located : held? reply with
  | none =>
    rw [located] at behindVector
    obtain ⟨rfl, rfl⟩ := Dialogue.runs_done.mp behindVector
    exact .unlocated reply (held?_eq_none.mp located)
  | some vector =>
    rw [located] at behindVector
    obtain ⟨rfl, embedded⟩ := held?_eq_some.mp located
    obtain ⟨_, _, _, rfl, second, behindPassages⟩ := Dialogue.runs_bind.mp behindVector
    obtain ⟨reply, rfl, rfl⟩ := search_runs.mp second
    cases searched : held? reply with
    | none =>
      rw [searched] at behindPassages
      obtain ⟨rfl, rfl⟩ := Dialogue.runs_done.mp behindPassages
      exact .nothing vector embedded reply (held?_eq_none.mp searched)
    | some passages =>
      rw [searched] at behindPassages
      obtain ⟨rfl, found⟩ := held?_eq_some.mp searched
      cases passages with
      | nil => exact absurd rfl found
      | cons p ps =>
        obtain ⟨rfl, rfl⟩ := Dialogue.runs_done.mp behindPassages
        exact .evidence vector embedded (p :: ps) found

theorem lookupsIn_of_consults (consults : Consults topK safe exchanges findings) :
    lookupsIn exchanges = exchanges := by
  cases consults with
  | unlocated => rfl
  | nothing => rfl
  | evidence => rfl

/-- Looking the same text up, replied to alike, is the same exchanges and finds the same. -/
theorem eq_of_consults {exchanges' : List Exchange} {findings' : Findings}
    (first : Consults topK safe exchanges findings)
    (second : Consults topK safe exchanges' findings')
    (alike : RepliedAlike exchanges exchanges') :
    exchanges = exchanges' ∧ findings = findings' := by
  cases first with
  | unlocated reply none =>
    cases second with
    | unlocated reply' none' =>
      obtain rfl := alike.head
      exact ⟨rfl, rfl⟩
    | nothing vector located =>
      obtain rfl := alike.head
      exact absurd ⟨rfl, located⟩ (none vector)
    | evidence vector located =>
      obtain rfl := alike.head
      exact absurd ⟨rfl, located⟩ (none vector)
  | nothing vector located reply none =>
    cases second with
    | unlocated reply' none' =>
      obtain rfl := alike.head
      exact absurd ⟨rfl, located⟩ (none' vector)
    | nothing vector' located' reply' none' =>
      cases alike.head
      obtain rfl := alike.second
      exact ⟨rfl, rfl⟩
    | evidence vector' located' passages found =>
      cases alike.head
      obtain rfl := alike.second
      exact absurd ⟨rfl, found⟩ (none passages)
  | evidence vector located passages found =>
    cases second with
    | unlocated reply' none' =>
      obtain rfl := alike.head
      exact absurd ⟨rfl, located⟩ (none' vector)
    | nothing vector' located' reply' none' =>
      cases alike.head
      obtain rfl := alike.second
      exact absurd ⟨rfl, found⟩ (none' passages)
    | evidence vector' located' passages' found' =>
      cases alike.head
      cases alike.second
      exact ⟨rfl, rfl⟩

end Consults

/-! ## Turns -/

/-- Whether the question of a turn with these exchanges came to a text without personal data. -/
def CameTo (manner : Manner) (conversation : List Message) (exchanges : List Exchange)
    (safe : String) : Prop :=
  ∃ question redaction rest, lastUserText? conversation = some question ∧
    Redacts manner.language question redaction (.ok safe) ∧ exchanges = redaction ++ rest

/-- How a turn goes whose question came to a text without personal data: the text is looked up, and
the turn goes on from the findings. -/
inductive Consulted (manner : Manner) (conversation : List Message) (safe : String)
    (lookups : List Exchange) (findings : Findings) : List Exchange → Ending → Prop
  | intro {question : String} {redaction composition : List Exchange} {ending : Ending}
      (asked : lastUserText? conversation = some question)
      (redacted : Redacts manner.language question redaction (.ok safe))
      (consults : Consults manner.topK safe lookups findings)
      (composed :
        (answerFrom manner.temperature conversation question findings).Runs composition ending) :
      Consulted manner conversation safe lookups findings (redaction ++ lookups ++ composition)
        ending

section Turns

variable {manner : Manner} {conversation : List Message} {exchanges : List Exchange}
  {ending : Ending}

theorem lookupsIn_of_redacts {language question : String} {result : Except ServiceError String}
    (redacts : Redacts language question exchanges result) : lookupsIn exchanges = [] := by
  cases redacts with
  | unanalyzed => rfl
  | clean => rfl
  | replaced => rfl

/-- What is made of findings looks nothing up. -/
theorem lookupsIn_of_answerFrom {temperature : Binary32} {question : String} {findings : Findings}
    (runs : (answerFrom temperature conversation question findings).Runs exchanges ending) :
    lookupsIn exchanges = [] := by
  cases findings with
  | unlocated =>
    obtain ⟨rfl, -⟩ := Dialogue.runs_done.mp runs
    rfl
  | nothing =>
    obtain ⟨rfl, -⟩ := Dialogue.runs_done.mp runs
    rfl
  | evidence context citations =>
    obtain ⟨reply, rfl, -⟩ := compose_runs.mp runs
    rfl

theorem Consulted.lookupsIn_eq {safe : String} {lookups : List Exchange} {findings : Findings}
    (consulted : Consulted manner conversation safe lookups findings exchanges ending) :
    lookupsIn exchanges = lookups := by
  cases consulted with
  | intro asked redacted consults composed =>
    rw [lookupsIn_append, lookupsIn_append, lookupsIn_of_redacts redacted,
      lookupsIn_of_consults consults, lookupsIn_of_answerFrom composed, List.nil_append,
      List.append_nil]

theorem Consulted.cameTo {safe : String} {lookups : List Exchange} {findings : Findings}
    (consulted : Consulted manner conversation safe lookups findings exchanges ending) :
    CameTo manner conversation exchanges safe := by
  cases consulted with
  | intro asked redacted _ _ => exact ⟨_, _, _, asked, redacted, List.append_assoc _ _ _⟩

theorem Consulted.consults {safe : String} {lookups : List Exchange} {findings : Findings}
    (consulted : Consulted manner conversation safe lookups findings exchanges ending) :
    Consults manner.topK safe lookups findings := by
  cases consulted with
  | intro _ _ consults _ => exact consults

/-- How personal data is removed shows at the beginning of the exchanges. -/
theorem result_of_redacts {language question : String} {xs ys xs' ys' : List Exchange}
    {result result' : Except ServiceError String} (first : Redacts language question xs result)
    (second : Redacts language question xs' result') (same : xs ++ ys = xs' ++ ys') :
    result = result' := by
  cases first with
  | unanalyzed e =>
    cases second with
    | unanalyzed => cases same; rfl
    | clean => cases same
    | replaced => cases same
  | clean =>
    cases second with
    | unanalyzed => cases same
    | clean => rfl
    | replaced entities found =>
      cases same
      exact absurd rfl found
  | replaced entities found reply =>
    cases second with
    | unanalyzed => cases same
    | clean =>
      cases same
      exact absurd rfl found
    | replaced => cases same; rfl

/-- The question of a turn comes to one text at most. -/
theorem CameTo.eq {safe safe' : String} (first : CameTo manner conversation exchanges safe)
    (second : CameTo manner conversation exchanges safe') : safe = safe' := by
  obtain ⟨question, redaction, rest, asked, redacts, same⟩ := first
  obtain ⟨question', redaction', rest', asked', redacts', same'⟩ := second
  rw [asked] at asked'
  cases asked'
  cases result_of_redacts redacts redacts' (same.symm.trans same')
  rfl

/-- A turn looks up the text that its question came to, or nothing. -/
theorem consulted_or_not (runs : (answer manner conversation).Runs exchanges ending) :
    (∃ safe lookups findings,
      Consulted manner conversation safe lookups findings exchanges ending) ∨
    lookupsIn exchanges = [] ∧ ∀ safe, ¬CameTo manner conversation exchanges safe := by
  unfold answer at runs
  cases asked : lastUserText? conversation with
  | none =>
    rw [asked] at runs
    obtain ⟨rfl, rfl⟩ := Dialogue.runs_done.mp runs
    refine .inr ⟨rfl, ?_⟩
    rintro safe ⟨question, _, _, asked', -⟩
    rw [asked] at asked'
    cases asked'
  | some question =>
    rw [asked] at runs
    dsimp only at runs
    rw [answerQuestion_eq] at runs
    obtain ⟨redaction, rest, redacted, rfl, first, behind⟩ := Dialogue.runs_bind.mp runs
    have redacts := redact_runs.mp first
    match redacted with
    | .error e =>
      obtain ⟨rfl, rfl⟩ := Dialogue.runs_done.mp behind
      rw [List.append_nil]
      refine .inr ⟨lookupsIn_of_redacts redacts, ?_⟩
      rintro safe ⟨question', redaction', rest', asked', redacts', same⟩
      rw [asked] at asked'
      cases asked'
      rw [← List.append_nil redaction] at same
      cases result_of_redacts redacts redacts' same
    | .ok safe =>
      obtain ⟨lookups, composition, findings, rfl, second, composed⟩ := Dialogue.runs_bind.mp behind
      rw [← List.append_assoc]
      exact .inl ⟨safe, lookups, findings, .intro asked redacts (consults_of_runs second) composed⟩

end Turns

/-! ## Series of turns -/

section Series

variable {σ₁ σ₂ : Type}

/-- A turn that was played, with its conversation. -/
abbrev Scene (σ : Type) := List Message × Played σ

def Session.scenesAmid {σ : Type} (setup : Setup σ) (steps : List (List Message × (Spot → Spot)))
    (s : Session σ) : List (Scene σ) :=
  (steps.map Prod.fst).zip (Session.turnsAmid setup steps s)

namespace Scene

variable {σ : Type}

def lookups (scene : Scene σ) : List Exchange :=
  lookupsIn scene.2.exchanges

/-- Whether the question of the turn came to a text without personal data. -/
def CameTo (manner : Manner) (scene : Scene σ) (safe : String) : Prop :=
  Answering.CameTo manner scene.1 scene.2.exchanges safe

/-- Whether the turn looked the text up by its lookups and went on from these findings. -/
def Consulted (manner : Manner) (scene : Scene σ) (safe : String) (findings : Findings) : Prop :=
  Answering.Consulted manner scene.1 safe scene.lookups findings scene.2.exchanges scene.2.ending

end Scene

/-- Two turns that look the same text up by the same lookups and go on from the same findings. -/
def ConsultAlike (manner₁ manner₂ : Manner) (scene₁ : Scene σ₁) (scene₂ : Scene σ₂)
    (safe : String) : Prop :=
  scene₁.lookups = scene₂.lookups ∧
    ∃ findings, scene₁.Consulted manner₁ safe findings ∧ scene₂.Consulted manner₂ safe findings

theorem runs_of_mem_scenes {σ : Type} {setup : Setup σ}
    {steps : List (List Message × (Spot → Spot))} {s : Session σ} {scene : Scene σ}
    (member : scene ∈ Session.scenesAmid setup steps s) :
    (answer setup.manner scene.1).Runs scene.2.exchanges scene.2.ending := by
  unfold Session.scenesAmid at member
  induction steps generalizing s with
  | nil => cases member
  | cons step rest ih =>
    obtain ⟨conversation, change⟩ := step
    rw [Session.turnsAmid] at member
    cases member with
    | head =>
      have course : (answer setup.manner conversation).run setup.services s.memory =
          ⟨_, _, _⟩ := rfl
      exact (Dialogue.run_eq_iff.mp course).1
    | tail _ member => exact ih member

/-- Turns whose questions came to the same text consult alike if they are replied to alike. -/
theorem consultAlike_of_cameTo {manner₁ manner₂ : Manner} (sameCount : manner₁.topK = manner₂.topK)
    {scene₁ : Scene σ₁} {scene₂ : Scene σ₂} {safe : String}
    (runs₁ : (answer manner₁ scene₁.1).Runs scene₁.2.exchanges scene₁.2.ending)
    (runs₂ : (answer manner₂ scene₂.1).Runs scene₂.2.exchanges scene₂.2.ending)
    (came₁ : scene₁.CameTo manner₁ safe) (came₂ : scene₂.CameTo manner₂ safe)
    (alike : RepliedAlike scene₁.lookups scene₂.lookups) :
    ConsultAlike manner₁ manner₂ scene₁ scene₂ safe := by
  have consulted {σ : Type} {manner : Manner} {scene : Scene σ}
      (runs : (answer manner scene.1).Runs scene.2.exchanges scene.2.ending)
      (came : scene.CameTo manner safe) : ∃ findings, scene.Consulted manner safe findings := by
    obtain ⟨safe', lookups, findings, consulted⟩ | ⟨-, none⟩ := consulted_or_not runs
    · obtain rfl := consulted.cameTo.eq came
      obtain rfl := consulted.lookupsIn_eq
      exact ⟨findings, consulted⟩
    · exact absurd came (none safe)
  obtain ⟨findings, consulted₁⟩ := consulted runs₁ came₁
  obtain ⟨findings', consulted₂⟩ := consulted runs₂ came₂
  have consults₂ := consulted₂.consults
  rw [← sameCount] at consults₂
  obtain ⟨sameLookups, rfl⟩ := eq_of_consults consulted₁.consults consults₂ alike
  exact ⟨sameLookups, findings, consulted₁, consulted₂⟩

theorem lookups_eq_nil {σ : Type} {manner : Manner} {scene : Scene σ}
    (runs : (answer manner scene.1).Runs scene.2.exchanges scene.2.ending)
    (none : ∀ safe, ¬scene.CameTo manner safe) : scene.lookups = [] := by
  obtain ⟨safe, lookups, findings, consulted⟩ | ⟨nothing, -⟩ := consulted_or_not runs
  · exact absurd consulted.cameTo (none safe)
  · exact nothing

/-- Series of turns whose questions came to the same texts consult alike, turn by turn, if all that
they look up is replied to alike. -/
theorem forall₂_consultAlike {manner₁ manner₂ : Manner} (sameCount : manner₁.topK = manner₂.topK)
    {scenes₁ : List (Scene σ₁)} {scenes₂ : List (Scene σ₂)}
    (runs₁ : ∀ scene ∈ scenes₁,
      (answer manner₁ scene.1).Runs scene.2.exchanges scene.2.ending)
    (runs₂ : ∀ scene ∈ scenes₂,
      (answer manner₂ scene.1).Runs scene.2.exchanges scene.2.ending)
    (came : List.Forall₂ (fun scene₁ scene₂ =>
      ∀ safe, scene₁.CameTo manner₁ safe ↔ scene₂.CameTo manner₂ safe) scenes₁ scenes₂)
    (alike : RepliedAlike (scenes₁.flatMap Scene.lookups) (scenes₂.flatMap Scene.lookups)) :
    List.Forall₂ (fun scene₁ scene₂ => scene₁.lookups = scene₂.lookups ∧
      ∀ safe, scene₁.CameTo manner₁ safe → ConsultAlike manner₁ manner₂ scene₁ scene₂ safe)
      scenes₁ scenes₂ := by
  induction came with
  | nil => exact .nil
  | @cons scene₁ scene₂ rest₁ rest₂ first _ ih =>
    rw [List.flatMap_cons, List.flatMap_cons] at alike
    have runs₁' := runs₁ scene₁ List.mem_cons_self
    have runs₂' := runs₂ scene₂ List.mem_cons_self
    have consults (safe : String) (came : scene₁.CameTo manner₁ safe) :
        ConsultAlike manner₁ manner₂ scene₁ scene₂ safe :=
      consultAlike_of_cameTo sameCount runs₁' runs₂' came ((first safe).mp came) alike.left
    -- Lookups that are the same leave the rest of both series at the same place.
    have same : scene₁.lookups = scene₂.lookups := by
      by_cases came : ∃ safe, scene₁.CameTo manner₁ safe
      · obtain ⟨safe, came⟩ := came
        exact (consults safe came).1
      · have none₁ := not_exists.mp came
        have none₂ : ∀ safe, ¬scene₂.CameTo manner₂ safe :=
          fun safe came => none₁ safe ((first safe).mpr came)
        rw [lookups_eq_nil runs₁' none₁, lookups_eq_nil runs₂' none₂]
    rw [same] at alike
    refine .cons ⟨same, consults⟩ (ih ?_ ?_ alike.right)
    · exact fun scene member => runs₁ scene (List.mem_cons_of_mem _ member)
    · exact fun scene member => runs₂ scene (List.mem_cons_of_mem _ member)

/-- Whatever two conversations hold, once their questions came to the same text the turns look it up
alike and go on from the same context and citations: any two turns whose lookups are replied to
alike, and so all turns of two series that are replied to alike throughout. -/
theorem turns_consult_alike (setup₁ : Setup σ₁) (setup₂ : Setup σ₂)
    (sameCount : setup₁.manner.topK = setup₂.manner.topK)
    (steps₁ steps₂ : List (List Message × (Spot → Spot))) (s₁ : Session σ₁) (s₂ : Session σ₂) :
    (∀ scene₁ ∈ Session.scenesAmid setup₁ steps₁ s₁,
      ∀ scene₂ ∈ Session.scenesAmid setup₂ steps₂ s₂, ∀ safe,
        scene₁.CameTo setup₁.manner safe → scene₂.CameTo setup₂.manner safe →
        RepliedAlike scene₁.lookups scene₂.lookups →
        ConsultAlike setup₁.manner setup₂.manner scene₁ scene₂ safe) ∧
    (List.Forall₂ (fun scene₁ scene₂ =>
        ∀ safe, scene₁.CameTo setup₁.manner safe ↔ scene₂.CameTo setup₂.manner safe)
        (Session.scenesAmid setup₁ steps₁ s₁) (Session.scenesAmid setup₂ steps₂ s₂) →
      RepliedAlike ((Session.scenesAmid setup₁ steps₁ s₁).flatMap Scene.lookups)
        ((Session.scenesAmid setup₂ steps₂ s₂).flatMap Scene.lookups) →
      List.Forall₂ (fun scene₁ scene₂ => scene₁.lookups = scene₂.lookups ∧
        ∀ safe, scene₁.CameTo setup₁.manner safe →
          ConsultAlike setup₁.manner setup₂.manner scene₁ scene₂ safe)
        (Session.scenesAmid setup₁ steps₁ s₁) (Session.scenesAmid setup₂ steps₂ s₂)) := by
  constructor
  · intro scene₁ member₁ scene₂ member₂ safe came₁ came₂ alike
    exact consultAlike_of_cameTo sameCount (runs_of_mem_scenes member₁)
      (runs_of_mem_scenes member₂) came₁ came₂ alike
  · intro came alike
    exact forall₂_consultAlike sameCount (fun _ => runs_of_mem_scenes)
      (fun _ => runs_of_mem_scenes) came alike

/-- Services that find a person in every text but the one that stands for persons. -/
def personFinder : Services Unit
  | .analyze text _, _ => (.ok (if text = "<PERSON>" then [] else [.string "PERSON"]), ())
  | .anonymize .., _ => (.ok "<PERSON>", ())
  | .embed _, _ => (.ok [.finite false 1], ())
  | .query .., _ => (.ok [⟨"[5 – 9] Patience.", "Talk", some "talk"⟩], ())
  | .complete .., _ => (.ok "Be patient.", ())

def personSetup (language : String) : Setup Unit :=
  ⟨personFinder, ⟨language, 3, .finite false 0⟩, .disabled⟩

def named : List Message := [.user "I am Ahmed."]

def unnamed : List Message := [.user "I am Omar.", .assistant "Welcome.", .user "<PERSON>"]

def personScene (language : String) (conversation : List Message) : Scene Unit :=
  (conversation, Session.turn (personSetup language) conversation ⟨(), .vacant, .empty⟩)

/-- A name that is replaced and a text without one are looked up alike, behind other messages and in
another language. -/
theorem turns_consult_alike_person :
    (personScene "en" named).CameTo (personSetup "en").manner "<PERSON>" ∧
    (personScene "ar" unnamed).CameTo (personSetup "ar").manner "<PERSON>" ∧
    RepliedAlike (personScene "en" named).lookups (personScene "ar" unnamed).lookups ∧
    ConsultAlike (personSetup "en").manner (personSetup "ar").manner
      (personScene "en" named) (personScene "ar" unnamed) "<PERSON>" ∧
    List.Forall₂ (fun scene₁ scene₂ => scene₁.lookups = scene₂.lookups ∧
      ∀ safe, scene₁.CameTo (personSetup "en").manner safe →
        ConsultAlike (personSetup "en").manner (personSetup "ar").manner scene₁ scene₂ safe)
      [personScene "en" named] [personScene "ar" unnamed] := by
  have came₁ : (personScene "en" named).CameTo (personSetup "en").manner "<PERSON>" :=
    ⟨"I am Ahmed.", _, _, rfl, .replaced [.string "PERSON"] (List.cons_ne_nil _ _) (.ok "<PERSON>"),
      rfl⟩
  have came₂ : (personScene "ar" unnamed).CameTo (personSetup "ar").manner "<PERSON>" :=
    ⟨"<PERSON>", _, _, rfl, .clean, rfl⟩
  have replied : RepliedAlike (personScene "en" named).lookups (personScene "ar" unnamed).lookups :=
    repliedAlike_self _
  obtain ⟨turns, series⟩ := turns_consult_alike (personSetup "en") (personSetup "ar") rfl
    [(named, id)] [(unnamed, id)] ⟨(), .vacant, .empty⟩ ⟨(), .vacant, .empty⟩
  refine ⟨came₁, came₂, replied, ?_, series ?_ ?_⟩
  · exact turns (personScene "en" named) List.mem_cons_self (personScene "ar" unnamed)
      List.mem_cons_self "<PERSON>" came₁ came₂ replied
  · refine .cons (fun safe => ⟨fun came => ?_, fun came => ?_⟩) .nil
    · obtain rfl := came₁.eq came
      exact came₂
    · obtain rfl := came₂.eq came
      exact came₁
  · exact replied

end Series

end CitedAnswers.Answering
