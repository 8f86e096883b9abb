import CitedAnswers.Answering.Dialogue

/-! # Runs of dialogues

A dialogue leaves open what its calls are replied.  `Dialogue.Runs` relates it to every series of
exchanges that it can have and to the result that each of them leads to; `Services.Serve` says which
series of exchanges services with a memory give.

The non-trivial facts are `runs_bind`, which splits a run where one dialogue goes on with the result
of another, and `run_eq_iff`: of all runs, the one that services give is the one that
`Dialogue.run` computes.  Facts about a dialogue can so be stated without any services and hold for
all of them.
-/

namespace CitedAnswers.Answering

/-! ## Runs -/

/-- The series of exchanges that a dialogue can have, with the result that each leads to. -/
inductive Dialogue.Runs {α : Type} : Dialogue α → List Exchange → α → Prop
  | done (result : α) : Runs (.done result) [] result
  | ask {call : Call} {next : call.Reply → Dialogue α} {exchanges : List Exchange} {result : α}
      (reply : call.Reply) (rest : Runs (next reply) exchanges result) :
      Runs (.ask call next) (⟨call, reply⟩ :: exchanges) result

namespace Dialogue

variable {α β : Type}

theorem runs_done {a b : α} {exchanges : List Exchange} :
    (done a).Runs exchanges b ↔ exchanges = [] ∧ b = a := by
  constructor
  · intro runs
    cases runs with
    | done => exact ⟨rfl, rfl⟩
  · rintro ⟨rfl, rfl⟩
    exact .done b

theorem runs_ask {call : Call} {next : call.Reply → Dialogue α} {exchanges : List Exchange}
    {b : α} :
    (ask call next).Runs exchanges b ↔
      ∃ reply rest, exchanges = ⟨call, reply⟩ :: rest ∧ (next reply).Runs rest b := by
  constructor
  · intro runs
    cases runs with
    | ask reply rest => exact ⟨reply, _, rfl, rest⟩
  · rintro ⟨reply, rest, rfl, runs⟩
    exact .ask reply runs

theorem runs_call {c : Call} {exchanges : List Exchange} {reply : c.Reply} :
    (call c).Runs exchanges reply ↔ exchanges = [⟨c, reply⟩] := by
  rw [call, runs_ask]
  constructor
  · rintro ⟨r, rest, rfl, runs⟩
    obtain ⟨rfl, rfl⟩ := runs_done.mp runs
    rfl
  · rintro rfl
    exact ⟨reply, [], rfl, .done reply⟩

/-- A run of a dialogue that goes on with the result of another one is a run of the other one and
then a run of what follows. -/
theorem runs_bind {d : Dialogue α} {next : α → Dialogue β} {exchanges : List Exchange} {b : β} :
    (d >>= next).Runs exchanges b ↔
      ∃ before after a, exchanges = before ++ after ∧ d.Runs before a ∧ (next a).Runs after b := by
  change (d.bind next).Runs exchanges b ↔ _
  constructor
  · intro runs
    -- On the first dialogue: the run is split where that one is done.
    induction d generalizing exchanges with
    | done a => exact ⟨[], exchanges, a, rfl, .done a, runs⟩
    | ask call reply ih =>
      obtain ⟨r, rest, rfl, remaining⟩ := runs_ask.mp runs
      obtain ⟨before, after, a, rfl, first, second⟩ := ih r remaining
      exact ⟨⟨call, r⟩ :: before, after, a, rfl, .ask r first, second⟩
  · rintro ⟨before, after, a, rfl, first, second⟩
    -- The other way round the run of the first dialogue already tells which replies it got.
    induction first with
    | done => exact second
    | ask reply _ ih => exact .ask reply (ih second)

theorem runs_call_bind {c : Call} {next : c.Reply → Dialogue β} {exchanges : List Exchange}
    {b : β} :
    (call c >>= next).Runs exchanges b ↔
      ∃ reply rest, exchanges = ⟨c, reply⟩ :: rest ∧ (next reply).Runs rest b :=
  runs_ask

/-- A dialogue that is done behind its first call has the exchange of that call and no other. -/
theorem runs_call_done {c : Call} {next : c.Reply → Dialogue β} {result : c.Reply → β}
    (isDone : ∀ reply, next reply = done (result reply)) {exchanges : List Exchange} {b : β} :
    (call c >>= next).Runs exchanges b ↔
      ∃ reply, exchanges = [⟨c, reply⟩] ∧ b = result reply := by
  rw [runs_call_bind]
  constructor
  · rintro ⟨reply, rest, rfl, runs⟩
    rw [isDone] at runs
    obtain ⟨rfl, rfl⟩ := runs_done.mp runs
    exact ⟨reply, rfl, rfl⟩
  · rintro ⟨reply, rfl, rfl⟩
    refine ⟨reply, [], rfl, ?_⟩
    rw [isDone]
    exact .done (result reply)

end Dialogue

/-! ## Services -/

variable {σ α : Type}

/-- Whether services that start from a memory reply to calls as in these exchanges, each with the
memory that the one before left, and are left with another memory. -/
def Services.Serve (services : Services σ) : σ → List Exchange → σ → Prop
  | memory, [], left => memory = left
  | memory, ⟨call, reply⟩ :: rest, left =>
    (services call memory).1 = reply ∧ services.Serve (services call memory).2 rest left

/-- What services make of a dialogue is the one run of it that they serve. -/
theorem Dialogue.run_eq_iff {services : Services σ} {d : Dialogue α} {memory left : σ} {result : α}
    {exchanges : List Exchange} :
    d.run services memory = ⟨result, exchanges, left⟩ ↔
      d.Runs exchanges result ∧ services.Serve memory exchanges left := by
  -- Memory and exchanges stay general, as each call leaves others for the rest.
  induction d generalizing memory exchanges with
  | done a =>
    rw [runs_done]
    constructor
    · intro run
      cases run
      exact ⟨⟨rfl, rfl⟩, rfl⟩
    · rintro ⟨⟨rfl, rfl⟩, served⟩
      cases served
      rfl
  | ask call next ih =>
    rw [runs_ask]
    constructor
    · intro run
      cases run
      obtain ⟨runs, served⟩ := (ih _).mp (Eq.refl ((next (services call memory).1).run services _))
      exact ⟨⟨_, _, rfl, runs⟩, rfl, served⟩
    · rintro ⟨⟨reply, rest, rfl, runs⟩, rfl, served⟩
      have tail := (ih _).mpr ⟨runs, served⟩
      simp only [Dialogue.run, tail]

end CitedAnswers.Answering
