import CitedAnswers.Http.CrossOrigin
import CitedAnswers.Proofs.Http.Effects

/-! # Requests from other origins

To respond to pages of other origins changes nothing about what is responded but header fields, and
nothing at all about what comes of a request (`gist_respondAcross`).  The exception are requests
that ask beforehand (`isPreflight`): they are responded to without being looked at any further, so
nothing comes of them (`respondAcross_of_preflight`).

The main statement is `respondAllAcross_transparent`, of any sequence of requests.
-/

namespace CitedAnswers.Http

open CitedAnswers.Answering (Exchange Session)

variable {σ : Type}

/-! ## One request -/

/-- Whether a request asks beforehand what is allowed. -/
def isPreflight (r : Request) : Bool :=
  r.method = "OPTIONS" && (r.headers.lookup "origin").isSome

/-- What comes of a request, apart from the header fields of its response. -/
structure Gist (σ : Type) where
  status : Nat
  body : String
  exchanges : List Exchange
  session : Session σ

def Served.gist (served : Served σ) : Gist σ :=
  ⟨served.response.status, served.response.body, served.exchanges, served.session⟩

theorem respondAcross_of_preflight (site : Site σ) (s : Session σ) {r : Request}
    (asks : isPreflight r = true) :
    (site.respondAcross s r).exchanges = [] ∧ (site.respondAcross s r).session = s := by
  obtain ⟨options, named⟩ := Bool.and_eq_true_iff.mp asks
  obtain ⟨origin, given⟩ := Option.isSome_iff_exists.mp named
  unfold Site.respondAcross
  rw [given]
  dsimp only
  rw [if_pos (of_decide_eq_true options)]
  exact ⟨rfl, rfl⟩

theorem gist_respondAcross (site : Site σ) (s : Session σ) {r : Request}
    (other : isPreflight r = false) :
    (site.respondAcross s r).gist = (site.respond s r).gist := by
  unfold Site.respondAcross
  cases given : r.headers.lookup "origin" with
  | none => rfl
  | some origin =>
    have method : r.method ≠ "OPTIONS" := by
      rintro options
      simp [isPreflight, options, given] at other
    dsimp only
    rw [if_neg method]
    -- Naming the origin adds a header field and leaves the rest as it is.
    split <;> rfl

/-! ## Sequences of requests -/

def Site.respondAllAcross (site : Site σ) : List Request → Session σ → List (Served σ)
  | [], _ => []
  | r :: rest, s =>
    let served := site.respondAcross s r
    served :: respondAllAcross site rest served.session

theorem silent_of_respondAllAcross (site : Site σ) {requests : List Request} {s : Session σ}
    {n : Nat} {r : Request} {served : Served σ} {before : Session σ}
    (request : requests[n]? = some r) (here : (site.respondAllAcross requests s)[n]? = some served)
    (came : (s :: (site.respondAllAcross requests s).map Served.session)[n]? = some before)
    (asks : isPreflight r = true) : served.exchanges = [] ∧ served.session = before := by
  induction requests generalizing s n with
  | nil => cases request
  | cons first rest ih =>
    cases n with
    | zero =>
      cases request
      cases here
      cases came
      exact respondAcross_of_preflight site before asks
    | succ n => exact ih request here came

/-- Without the requests that ask beforehand, what comes of the others is what comes of them where
no origin is named. -/
theorem gist_kept_respondAllAcross (site : Site σ) (requests : List Request) (s : Session σ) :
    (kept (requests.map fun r => !isPreflight r) (site.respondAllAcross requests s)).map
        Served.gist =
      (site.respondAll (requests.filter fun r => !isPreflight r) s).map Served.gist := by
  induction requests generalizing s with
  | nil => rfl
  | cons r rest ih =>
    have behind := ih (site.respondAcross s r).session
    cases asks : isPreflight r with
    | true =>
      -- The session that it leaves to the rest is the one it came to.
      obtain ⟨-, same⟩ := respondAcross_of_preflight site s asks
      rw [same] at behind
      simpa [kept, Site.respondAllAcross, asks, same] using behind
    | false =>
      have here := gist_respondAcross site s asks
      have same : (site.respondAcross s r).session = (site.respond s r).session :=
        congrArg Gist.session here
      rw [same] at behind
      simpa [kept, Site.respondAllAcross, Site.respondAll, asks, same, here] using behind

theorem gist_respondAllAcross (site : Site σ) {requests : List Request}
    (others : ∀ r ∈ requests, isPreflight r = false) (s : Session σ) :
    (site.respondAllAcross requests s).map Served.gist =
      (site.respondAll requests s).map Served.gist := by
  induction requests generalizing s with
  | nil => rfl
  | cons r rest ih =>
    have here := gist_respondAcross site s (others r List.mem_cons_self)
    have behind := ih (fun r member => others r (List.mem_cons_of_mem _ member))
      (site.respondAcross s r).session
    have same : (site.respondAcross s r).session = (site.respond s r).session :=
      congrArg Gist.session here
    rw [Site.respondAllAcross, Site.respondAll, List.map_cons, List.map_cons, here, behind, same]

/-- Where no request asks beforehand, the responses have the same statuses and bodies as where no
origin is named, after the same calls and replies, and leave the same log and the same counts.  A
request that asks beforehand makes no calls and leaves everything as it is, so what comes of the
others is what comes of them without it. -/
theorem respondAllAcross_transparent (site : Site σ) (requests : List Request) (s : Session σ) :
    let across := site.respondAllAcross requests s
    let sessions := s :: across.map Served.session
    ((∀ r ∈ requests, isPreflight r = false) →
      across.map Served.gist = (site.respondAll requests s).map Served.gist) ∧
    (∀ (n : Nat) r one before, requests[n]? = some r → across[n]? = some one →
      sessions[n]? = some before → isPreflight r = true →
      one.exchanges = [] ∧ one.session = before) ∧
    (kept (requests.map fun r => !isPreflight r) across).map Served.gist =
      (site.respondAll (requests.filter fun r => !isPreflight r) s).map Served.gist := by
  refine ⟨fun others => gist_respondAllAcross site others s, ?_, ?_⟩
  · intro n r one before request here came asks
    exact silent_of_respondAllAcross site request here came asks
  · exact gist_kept_respondAllAcross site requests s

/-- A request as a page of another origin sends it. -/
def fromPage (r : Request) : Request :=
  { r with headers := ("origin", "http://page") :: r.headers }

/-- A request that asks whether `suffixed` may be sent, and holds all of it. -/
def askingBeforehand : Request :=
  { fromPage suffixed with method := "OPTIONS" }

theorem respondAllAcross_transparent_page :
    (guarded.respondAllAcross [fromPage suffixed, fromPage wrongThroughout, forCounts]
        ⟨(), .vacant, .empty⟩).map Served.gist =
      (guarded.respondAll [fromPage suffixed, fromPage wrongThroughout, forCounts]
        ⟨(), .vacant, .empty⟩).map Served.gist ∧
    (guarded.respondAllAcross [fromPage suffixed] ⟨(), .vacant, .empty⟩).map Served.response ≠
      (guarded.respondAll [fromPage suffixed] ⟨(), .vacant, .empty⟩).map Served.response ∧
    ∃ one, (guarded.respondAllAcross [askingBeforehand] ⟨(), .vacant, .empty⟩)[0]? = some one ∧
      one.exchanges = [] ∧ one.session = ⟨(), .vacant, .empty⟩ := by
  obtain ⟨alike, -, -⟩ := respondAllAcross_transparent guarded
    [fromPage suffixed, fromPage wrongThroughout, forCounts] ⟨(), .vacant, .empty⟩
  obtain ⟨-, silent, -⟩ :=
    respondAllAcross_transparent guarded [askingBeforehand] ⟨(), .vacant, .empty⟩
  exact ⟨alike (by decide), by decide, _, rfl, silent 0 _ _ _ rfl rfl rfl (by decide)⟩

end CitedAnswers.Http
