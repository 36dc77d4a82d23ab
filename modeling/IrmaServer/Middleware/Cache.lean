import IrmaServer.Session.Invariants

/-!
# The response cache

`cacheMiddleware` (`helpers.go`) around an inner handler, and what it does over a whole run of
a session: a request is answered from the cache, without its handler, exactly when the latest
earlier request through the middleware left an entry that still applies to it. The entry is
keyed by endpoint, body digest, session status and `LastActive`; no header of the request is
part of it.
-/

namespace IrmaServer

/-- A request on a session endpoint: the `clientToken` URL parameter, the `Host` and
`Authorization` headers, the URL path, the body, and the time it is handled. -/
structure Request where
  clientToken : String
  host : String
  path : String
  authorization : String
  body : Bytes
  now : Time
  deriving DecidableEq, Repr

/-- A handler on the session the middleware placed in the request context: what it writes, and
the session after it. -/
abbrev Handler := Request → SessionData → Response × SessionData

def cacheMiddleware (sha256 : Bytes → Bytes) (next : Handler) : Handler := fun r sd =>
  let checked := sd.checkCache sha256 r.path r.body r.now
  if 0 < checked.1.1 && !checked.1.2.isEmpty then (⟨checked.1.1, checked.1.2⟩, checked.2)
  else
    let handled := next r checked.2
    (handled.1, handled.2.recordResponse r.path r.body handled.1)

def SessionData.cacheHit (sd : SessionData) (sha256 : Bytes → Bytes) (r : Request) : Bool :=
  sd.cacheApplies sha256 r.path r.body r.now && 0 < sd.responseCache.status

section Replay

variable {sha256 : Bytes → Bytes} {r : Request} {sd : SessionData}

theorem cacheMiddleware_of_hit (hit : sd.cacheHit sha256 r = true) (next : Handler) :
    cacheMiddleware sha256 next r sd = (⟨sd.responseCache.status, sd.responseCache.response⟩, sd) := by
  simp only [SessionData.cacheHit, Bool.and_eq_true, decide_eq_true_eq] at hit
  have applies := hit.1
  simp only [SessionData.cacheApplies, Bool.and_eq_true, decide_eq_true_eq] at applies
  simp [cacheMiddleware, SessionData.checkCache, hit, applies.1.1.1.2]

theorem cacheMiddleware_of_miss (miss : sd.cacheHit sha256 r = false) (next : Handler) :
    cacheMiddleware sha256 next r sd =
      let handled := next r (sd.checkCache sha256 r.path r.body r.now).2
      (handled.1, handled.2.recordResponse r.path r.body handled.1) := by
  simp only [SessionData.cacheHit, Bool.and_eq_false_iff, decide_eq_false_iff_not, not_lt] at miss
  unfold cacheMiddleware SessionData.checkCache
  rcases miss with miss | miss
  · simp [miss, Body.isEmpty]
  · split <;> simp [miss]

theorem cacheMiddleware_handler_independent_iff :
    (∀ next next' : Handler, cacheMiddleware sha256 next r sd = cacheMiddleware sha256 next' r sd) ↔
      sd.cacheHit sha256 r = true := by
  constructor
  · intro same
    by_contra miss
    have := congrArg (fun a => a.1.status)
      (same (fun _ sd => (⟨0, .bytes []⟩, sd)) (fun _ sd => (⟨1, .bytes []⟩, sd)))
    simp [cacheMiddleware_of_miss (Bool.eq_false_iff.mpr miss)] at this
  · intro hit next next'
    rw [cacheMiddleware_of_hit hit, cacheMiddleware_of_hit hit]

theorem cacheMiddleware_replays_recorded {m : Bytes} {response : Response}
    (positive : 0 < response.status) (nonempty : response.body.isEmpty = false)
    (digest : sha256 m = sha256 r.body) (fresh : ¬sd.lastActive < r.now - retryTimeLimit)
    (next : Handler) :
    cacheMiddleware sha256 next r (sd.recordResponse r.path m response) =
      (response, sd.recordResponse r.path m response) := by
  have hit : (sd.recordResponse r.path m response).cacheHit sha256 r = true := by
    simp [SessionData.cacheHit, SessionData.cacheApplies, SessionData.recordResponse, positive,
      nonempty, digest, fresh]
  rw [cacheMiddleware_of_hit hit]
  rfl

end Replay

/-! ## Runs of a session through the cache -/

structure Exchange where
  endpoint : String
  message : Bytes
  response : Response
  statusAfter : ServerStatus
  deriving DecidableEq, Repr

/-- What happens to a session: a request through `cacheMiddleware` to an inner handler, or an
operation outside the cache (the session operations, a bare `setStatus` or `markAlive`). -/
inductive CacheEvent
  | request (r : Request) (next : Handler)
  | op (o : SessionOp)
  | setStatus (status : ServerStatus)
  | markAlive (now : Time)

def CacheEvent.apply (sha256 : Bytes → Bytes) : CacheEvent → SessionData → SessionData × Option Exchange
  | .request r next, sd =>
    let answered := cacheMiddleware sha256 next r sd
    (answered.2, some ⟨r.path, r.body, answered.1, answered.2.status⟩)
  | .op o, sd => ((o.apply sd).1, none)
  | .setStatus status, sd => ((sd.setStatus status).1, none)
  | .markAlive now, sd => (sd.markAlive now, none)

def CacheEvent.run (sha256 : Bytes → Bytes) : List CacheEvent → SessionData → SessionData × List Exchange
  | [], sd => (sd, [])
  | e :: es, sd =>
    let step := e.apply sha256 sd
    let rest := CacheEvent.run sha256 es step.1
    (rest.1, step.2.toList ++ rest.2)

/-- The response cache holds the entry the exchange left; before any exchange it holds no
response. -/
def CacheMatches (sha256 : Bytes → Bytes) (cache : ResponseCache) : Option Exchange → Prop
  | none => cache.response.isEmpty = true
  | some x => cache.endpoint = x.endpoint ∧ sha256 cache.message = sha256 x.message ∧
      cache.response = x.response.body ∧ cache.status = x.response.status ∧
      cache.sessionStatus = some x.statusAfter

/-- The entry of exchange `x` applies to request `r` on session `sd` and has a response to
replay, in the order `checkCache` and `cacheMiddleware` test it: same endpoint, a non-empty
response, the recorded status is the session's, `LastActive` is at most `retryTimeLimit` old,
a body of the same digest, and a positive status. -/
def Exchange.Replayable (x : Exchange) (sha256 : Bytes → Bytes) (sd : SessionData) (r : Request) : Prop :=
  x.endpoint = r.path ∧ x.response.body.isEmpty = false ∧ x.statusAfter = sd.status ∧
    ¬sd.lastActive < r.now - retryTimeLimit ∧ sha256 x.message = sha256 r.body ∧
    0 < x.response.status

section Matches

variable {sha256 : Bytes → Bytes}

theorem cacheMatches_newSession (augment : Bool) (draws : SessionDraws) (now : Time)
    (action : Action) (request : RequestorRequest) (disclosed : AttributeConDisCon)
    (frontendAuth : FrontendAuthorization) :
    CacheMatches sha256 (newSession augment draws now action request disclosed frontendAuth).responseCache none :=
  rfl

theorem cacheMiddleware_records (next : Handler) (r : Request) (sd : SessionData) :
    let answered := cacheMiddleware sha256 next r sd
    CacheMatches sha256 answered.2.responseCache (some ⟨r.path, r.body, answered.1, answered.2.status⟩) := by
  cases hit : sd.cacheHit sha256 r
  · rw [cacheMiddleware_of_miss hit]
    exact ⟨rfl, rfl, rfl, rfl, rfl⟩
  · rw [cacheMiddleware_of_hit hit]
    simp only [SessionData.cacheHit, SessionData.cacheApplies, Bool.and_eq_true,
      decide_eq_true_eq] at hit
    exact ⟨hit.1.1.1.1.1, hit.1.2, rfl, rfl, hit.1.1.1.2⟩

theorem CacheEvent.apply_cacheMatches (e : CacheEvent) {sd : SessionData} {last : Option Exchange}
    (h : CacheMatches sha256 sd.responseCache last) :
    CacheMatches sha256 (e.apply sha256 sd).1.responseCache ((e.apply sha256 sd).2.or last) := by
  cases e with
  | request r next => exact cacheMiddleware_records next r sd
  | op o =>
    show CacheMatches sha256 (o.apply sd).1.responseCache last
    rw [(o.apply_effect sd).responseCache_eq]
    exact h
  | setStatus => exact h
  | markAlive => exact h

theorem CacheEvent.run_cacheMatches (es : List CacheEvent) {sd : SessionData}
    {last : Option Exchange} (h : CacheMatches sha256 sd.responseCache last) :
    CacheMatches sha256 (CacheEvent.run sha256 es sd).1.responseCache
      ((CacheEvent.run sha256 es sd).2.getLast?.or last) := by
  induction es generalizing sd last with
  | nil => exact h
  | cons e es ih =>
    have latest : ∀ x : Option Exchange, x.toList.getLast? = x := by rintro (_ | _) <;> rfl
    simpa [run, latest, Option.or_assoc] using ih (e.apply_cacheMatches h)

theorem CacheMatches.cacheHit_iff {sd : SessionData} {last : Option Exchange} (r : Request)
    (h : CacheMatches sha256 sd.responseCache last) :
    sd.cacheHit sha256 r = true ↔ ∃ x, last = some x ∧ x.Replayable sha256 sd r := by
  cases last with
  | none =>
    have empty : sd.responseCache.response.isEmpty = true := h
    simp [SessionData.cacheHit, SessionData.cacheApplies, empty]
  | some x =>
    obtain ⟨endpoint, digest, response, status, sessionStatus⟩ := h
    simp only [SessionData.cacheHit, SessionData.cacheApplies, endpoint, digest, response, status,
      sessionStatus, Exchange.Replayable, Option.some.injEq, exists_eq_left', Bool.and_eq_true,
      decide_eq_true_eq, Bool.not_eq_true', decide_eq_false_iff_not, and_assoc]

end Matches

/-- In every run of a new session, a request is answered without its handler exactly when the
latest earlier request through `cacheMiddleware` is replayable for it; the answer is then that
request's response with the session unchanged, and otherwise the handler's response, recorded. -/
theorem cacheMiddleware_answers_from_latest_exchange (sha256 : Bytes → Bytes) (augment : Bool)
    (draws : SessionDraws) (now : Time) (action : Action) (request : RequestorRequest)
    (disclosed : AttributeConDisCon) (frontendAuth : FrontendAuthorization)
    (events : List CacheEvent) (r : Request) :
    let run := CacheEvent.run sha256 events
      (newSession augment draws now action request disclosed frontendAuth)
    ((∀ next next' : Handler, cacheMiddleware sha256 next r run.1 = cacheMiddleware sha256 next' r run.1) ↔
        ∃ x, run.2.getLast? = some x ∧ x.Replayable sha256 run.1 r) ∧
      (∀ x, run.2.getLast? = some x → x.Replayable sha256 run.1 r →
        ∀ next, cacheMiddleware sha256 next r run.1 = (x.response, run.1)) ∧
      ((¬∃ x, run.2.getLast? = some x ∧ x.Replayable sha256 run.1 r) → ∀ next,
        cacheMiddleware sha256 next r run.1 =
          let handled := next r (run.1.checkCache sha256 r.path r.body r.now).2
          (handled.1, handled.2.recordResponse r.path r.body handled.1)) := by
  intro run
  have matches_latest : CacheMatches sha256 run.1.responseCache run.2.getLast? := by
    simpa using CacheEvent.run_cacheMatches events (cacheMatches_newSession augment draws now
      action request disclosed frontendAuth)
  have hit_iff := matches_latest.cacheHit_iff r
  refine ⟨cacheMiddleware_handler_independent_iff.trans hit_iff, ?_, ?_⟩
  · intro x latest replayable next
    obtain ⟨-, -, response, status, -⟩ : CacheMatches sha256 run.1.responseCache (some x) :=
      latest ▸ matches_latest
    rw [cacheMiddleware_of_hit (hit_iff.mpr ⟨x, latest, replayable⟩), response, status]
  · intro miss next
    exact cacheMiddleware_of_miss (Bool.eq_false_iff.mpr (mt hit_iff.mp miss)) next

end IrmaServer
