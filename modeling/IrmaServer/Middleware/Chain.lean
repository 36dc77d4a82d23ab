import IrmaServer.Middleware.Cache
import IrmaServer.Store.Sweep

/-!
# The client middleware chain

`sessionMiddleware`, `frontendMiddleware` and `pairingMiddleware` (`helpers.go`), stacked with
`cacheMiddleware` around an endpoint in the order of §4.5 of the spec, on the memory store.
The authorization guards sit inside the cache, and the cache entry does not depend on the
`Authorization` header: a request without the right authorization is answered from the cache
with what the guarded handler wrote for an authorized one.
-/

namespace IrmaServer

/-- The entries of the server's error table that the middleware writes; the table is not
under src/. -/
structure ErrorTable where
  invalidRequest : ServerError
  unauthorized : ServerError
  irmaUnauthorized : ServerError
  sessionUnknown : ServerError
  pairingRequired : ServerError
  unexpectedRequest : ServerError
  deriving DecidableEq, Repr

def writeError (err : ServerError) (message : String) : Response :=
  ⟨err.status, .remoteError (err.remote message)⟩

def frontendMiddleware (errors : ErrorTable) (next : Handler) : Handler := fun r sd =>
  if r.authorization ≠ sd.frontendAuth then (writeError errors.irmaUnauthorized "", sd)
  else next r sd

def pairingMiddleware (errors : ErrorTable) (next : Handler) : Handler := fun r sd =>
  if sd.status = .pairing then (writeError errors.pairingRequired "", sd)
  else if sd.status ≠ .connected then
    (writeError errors.unexpectedRequest "Session not yet started or already finished", sd)
  else if sd.clientAuth ≠ r.authorization then (writeError errors.irmaUnauthorized "", sd)
  else next r sd

/-- Modelled from the spec (§3, `transaction`): `clientTransaction` is not under src/. On the
memory store it finds the session by its client token (`none` is the `UnknownSessionError`),
runs `fn` on it under its lock, and keeps the session `fn` leaves behind. -/
def MemorySessionStore.clientTransaction {α : Type} (s : MemorySessionStore) (token : ClientToken)
    (fn : SessionData → α × SessionData) : Option (α × MemorySessionStore) :=
  (s.clientGet token).bind fun p => (s.heap p).map fun sd => ((fn sd).1, s.setSession p (fn sd).2)

def sessionMiddleware (errors : ErrorTable) (sessionTokenRegex : String → Bool)
    (next : Handler) (r : Request) (s : MemorySessionStore) : Response × MemorySessionStore :=
  match parseClientToken sessionTokenRegex r.clientToken with
  | .error message => (writeError errors.invalidRequest message, s)
  | .ok token =>
    let transaction := s.clientTransaction token fun sd =>
      let expectedHost := sd.rrequest.request.base.host
      if expectedHost ≠ "" ∧ expectedHost ≠ r.host then (writeError errors.unauthorized "Host mismatch", sd)
      else next r sd
    transaction.getD (writeError errors.sessionUnknown "", s)

/-- Modelled from the spec (§4.5): the router is not under src/. A client endpoint behind
`pairingMiddleware`, with the session lookup and the cache outside it. -/
def pairingEndpoint (errors : ErrorTable) (sessionTokenRegex : String → Bool)
    (sha256 : Bytes → Bytes) (handler : Handler) : Request → MemorySessionStore → Response × MemorySessionStore :=
  sessionMiddleware errors sessionTokenRegex (cacheMiddleware sha256 (pairingMiddleware errors handler))

/-- Modelled from the spec (§4.5): a frontend endpoint behind `frontendMiddleware`, with the
session lookup and the cache outside it. -/
def frontendEndpoint (errors : ErrorTable) (sessionTokenRegex : String → Bool)
    (sha256 : Bytes → Bytes) (handler : Handler) : Request → MemorySessionStore → Response × MemorySessionStore :=
  sessionMiddleware errors sessionTokenRegex (cacheMiddleware sha256 (frontendMiddleware errors handler))

section Guards

variable {errors : ErrorTable} {next : Handler} {r : Request} {sd : SessionData}

theorem pairingMiddleware_eq :
    pairingMiddleware errors next r sd =
      if sd.status = .pairing then (writeError errors.pairingRequired "", sd)
      else if sd.status ≠ .connected then
        (writeError errors.unexpectedRequest "Session not yet started or already finished", sd)
      else if sd.clientAuth ≠ r.authorization then (writeError errors.irmaUnauthorized "", sd)
      else next r sd := rfl

theorem pairingMiddleware_of_authorized (connected : sd.status = .connected)
    (authorized : sd.clientAuth = r.authorization) : pairingMiddleware errors next r sd = next r sd := by
  simp [pairingMiddleware_eq, connected, authorized]

theorem pairingMiddleware_of_unauthorized (connected : sd.status = .connected)
    (unauthorized : sd.clientAuth ≠ r.authorization) :
    pairingMiddleware errors next r sd = (writeError errors.irmaUnauthorized "", sd) := by
  simp [pairingMiddleware_eq, connected, unauthorized]

theorem sessionMiddleware_of_session {sessionTokenRegex : String → Bool}
    {s : MemorySessionStore} {p : Ptr} (valid : sessionTokenRegex r.clientToken = true)
    (found : s.clientGet r.clientToken = some p) (stored : s.heap p = some sd)
    (anyHost : sd.rrequest.request.base.host = "") :
    sessionMiddleware errors sessionTokenRegex next r s = ((next r sd).1, s.setSession p (next r sd).2) := by
  simp [sessionMiddleware, parseClientToken, valid, MemorySessionStore.clientTransaction, found, stored,
    anyHost]

theorem sessionMiddleware_refusals {sessionTokenRegex : String → Bool} {s : MemorySessionStore} :
    (sessionTokenRegex r.clientToken = false →
      sessionMiddleware errors sessionTokenRegex next r s =
        (writeError errors.invalidRequest "string did not pass input validation for clientToken", s)) ∧
    (sessionTokenRegex r.clientToken = true → s.clientGet r.clientToken = none →
      sessionMiddleware errors sessionTokenRegex next r s = (writeError errors.sessionUnknown "", s)) ∧
    (∀ p sd, sessionTokenRegex r.clientToken = true → s.clientGet r.clientToken = some p →
      s.heap p = some sd → sd.rrequest.request.base.host ≠ "" → sd.rrequest.request.base.host ≠ r.host →
      sessionMiddleware errors sessionTokenRegex next r s = (writeError errors.unauthorized "Host mismatch", s)) := by
  refine ⟨fun invalid => ?_, fun valid unknown => ?_, fun p sd valid found stored expected foreign => ?_⟩
  · simp [sessionMiddleware, parseClientToken, invalid]
  · simp [sessionMiddleware, parseClientToken, valid, MemorySessionStore.clientTransaction, unknown]
  · simp [sessionMiddleware, parseClientToken, valid, MemorySessionStore.clientTransaction, found, stored,
      expected, foreign, MemorySessionStore.setSession_of_stored stored]

end Guards

/-! ## The cache in front of the guards -/

def authorizedGet : Request :=
  ⟨"clientToken", "", "/irma/session/clientToken/request", "clientAuth", [], 3⟩

def writeRequest : Handler := fun _ sd => (⟨200, .bytes [123, 125]⟩, sd)

/-- The client fetches the session request; within `retryTimeLimit` a second request to the same
endpoint with an empty body and a foreign `Authorization` header gets the same bytes from the
cache, where `pairingMiddleware` would answer it with `ErrorIrmaUnauthorized`. -/
theorem cache_replays_past_client_authorization (err : ServerError) (errors : ErrorTable)
    (sessionTokenRegex : String → Bool) (valid : sessionTokenRegex "clientToken" = true)
    (sha256 : Bytes → Bytes) :
    let chain := pairingEndpoint errors sessionTokenRegex sha256 writeRequest
    let first := chain authorizedGet (storeWithConnectedSession err)
    let intruder := { authorizedGet with authorization := "intruder" }
    MemoryReachable (storeWithConnectedSession err) ∧
      first.1 = ⟨200, .bytes [123, 125]⟩ ∧
      (chain intruder first.2).1 = ⟨200, .bytes [123, 125]⟩ ∧
      ((first.2.heap 0).map fun sd => (pairingMiddleware errors writeRequest intruder sd).1) =
        some (writeError errors.irmaUnauthorized "") := by
  intro chain first intruder
  let connected := ((clientConnects err).apply legacyCallbackSession).1
  let answer : Response := ⟨200, .bytes [123, 125]⟩
  let recorded := (connected.checkCache sha256 authorizedGet.path [] 3).2.recordResponse
    intruder.path [] answer
  have found : (storeWithConnectedSession err).clientGet "clientToken" = some 0 := rfl
  have stored : (storeWithConnectedSession err).heap 0 = some connected := rfl
  have miss : connected.cacheHit sha256 authorizedGet = false := rfl
  have first_eq : first = (answer, (storeWithConnectedSession err).setSession 0 recorded) := by
    show sessionMiddleware errors sessionTokenRegex _ authorizedGet _ = _
    rw [sessionMiddleware_of_session valid found stored rfl, cacheMiddleware_of_miss miss]
    rfl
  have stored' : first.2.heap 0 = some recorded := by rw [first_eq]; rfl
  have connected' : recorded.status = .connected := rfl
  refine ⟨storeWithConnectedSession_reachable err, by rw [first_eq], ?_, ?_⟩
  · show (sessionMiddleware errors sessionTokenRegex _ intruder first.2).1 = answer
    rw [sessionMiddleware_of_session valid (by rw [first_eq]; exact found) stored' rfl,
      @cacheMiddleware_replays_recorded sha256 intruder
        (connected.checkCache sha256 authorizedGet.path [] 3).2 [] answer
        (show (0 : Int) < 200 by decide) rfl rfl (show ¬(1 : Int) < 3 - retryTimeLimit by decide)]
  · rw [stored', Option.map_some',
      @pairingMiddleware_of_unauthorized errors writeRequest intruder recorded connected'
        (show "clientAuth" ≠ "intruder" by decide)]

theorem cache_replays_past_client_authorization_any_token :
    let errors : ErrorTable := ⟨⟨"", 0, ""⟩, ⟨"", 0, ""⟩, ⟨"", 0, ""⟩, ⟨"", 0, ""⟩, ⟨"", 0, ""⟩, ⟨"", 0, ""⟩⟩
    let chain := pairingEndpoint errors (fun _ => true) id writeRequest
    let first := chain authorizedGet (storeWithConnectedSession ⟨"", 0, ""⟩)
    let intruder := { authorizedGet with authorization := "intruder" }
    (fun _ => true : String → Bool) "clientToken" = true ∧
      MemoryReachable (storeWithConnectedSession ⟨"", 0, ""⟩) ∧
      first.1 = ⟨200, .bytes [123, 125]⟩ ∧
      (chain intruder first.2).1 = ⟨200, .bytes [123, 125]⟩ ∧
      ((first.2.heap 0).map fun sd => (pairingMiddleware errors writeRequest intruder sd).1) =
        some (writeError errors.irmaUnauthorized "") :=
  ⟨rfl, cache_replays_past_client_authorization _ _ (fun _ => true) rfl id⟩

/-! ## Requests keep the store consistent -/

def ActsByTransitions (next : Handler) : Prop :=
  ∀ r sd, ∃ ts : List Transition, (next r sd).2 = (Transition.run ts sd).1

section Transitions

variable {errors : ErrorTable} {next : Handler}

theorem ActsByTransitions.pairingMiddleware (acts : ActsByTransitions next) :
    ActsByTransitions (pairingMiddleware errors next) := by
  intro r sd
  simp only [pairingMiddleware_eq]
  split_ifs
  · exact ⟨[], rfl⟩
  · exact ⟨[], rfl⟩
  · exact ⟨[], rfl⟩
  · exact acts r sd

theorem ActsByTransitions.frontendMiddleware (acts : ActsByTransitions next) :
    ActsByTransitions (frontendMiddleware errors next) := by
  intro r sd
  simp only [IrmaServer.frontendMiddleware]
  split_ifs
  · exact ⟨[], rfl⟩
  · exact acts r sd

theorem ActsByTransitions.cacheMiddleware (acts : ActsByTransitions next) (sha256 : Bytes → Bytes) :
    ActsByTransitions (cacheMiddleware sha256 next) := by
  intro r sd
  cases hit : sd.cacheHit sha256 r
  · obtain ⟨ts, handled⟩ := acts r (sd.checkCache sha256 r.path r.body r.now).2
    refine ⟨.checkCache sha256 r.path r.body r.now :: ts ++
      [.recordResponse r.path r.body (next r (sd.checkCache sha256 r.path r.body r.now).2).1], ?_⟩
    rw [cacheMiddleware_of_miss hit, List.cons_append, Transition.run_cons_fst,
      Transition.run_append_fst]
    exact congrArg (fun sd' => sd'.recordResponse r.path r.body
      (next r (sd.checkCache sha256 r.path r.body r.now).2).1) handled
  · exact ⟨[], by rw [cacheMiddleware_of_hit hit]; rfl⟩

theorem sessionMiddleware_reachable (acts : ActsByTransitions next) (sessionTokenRegex : String → Bool)
    (r : Request) {s : MemorySessionStore} (reachable : MemoryReachable s) :
    MemoryReachable (sessionMiddleware errors sessionTokenRegex next r s).2 := by
  unfold sessionMiddleware parseClientToken
  split_ifs
  · cases found : s.clientGet r.clientToken with
    | none => simpa [MemorySessionStore.clientTransaction, found] using reachable
    | some p =>
      cases stored : s.heap p with
      | none => simpa [MemorySessionStore.clientTransaction, found, stored] using reachable
      | some sd =>
        simp only [MemorySessionStore.clientTransaction, found, stored, Option.some_bind,
          Option.map_some', Option.getD_some]
        split_ifs
        · exact reachable.transitions found stored []
        · obtain ⟨ts, handled⟩ := acts r sd
          rw [handled]
          exact reachable.transitions found stored ts
  · exact reachable

theorem sessionMiddleware_cases (acts : ActsByTransitions next) (sessionTokenRegex : String → Bool)
    (r : Request) (s : MemorySessionStore) :
    (sessionMiddleware errors sessionTokenRegex next r s).2 = s ∨
      ∃ p sd ts, s.clientGet r.clientToken = some p ∧ s.heap p = some sd ∧
        (sessionMiddleware errors sessionTokenRegex next r s).2 = s.setSession p (Transition.run ts sd).1 := by
  unfold sessionMiddleware parseClientToken
  split_ifs
  · cases found : s.clientGet r.clientToken with
    | none => simp [MemorySessionStore.clientTransaction, found]
    | some p =>
      cases stored : s.heap p with
      | none => simp [MemorySessionStore.clientTransaction, found, stored]
      | some sd =>
        refine .inr ⟨p, sd, ?_⟩
        simp only [MemorySessionStore.clientTransaction, found, stored, Option.some_bind,
          Option.map_some', Option.getD_some]
        split_ifs
        · exact ⟨[], trivial, trivial, rfl⟩
        · obtain ⟨ts, handled⟩ := acts r sd
          exact ⟨ts, trivial, trivial, by rw [handled]⟩
  · exact .inl rfl

end Transitions

/-- Every request through a client or frontend endpoint of the memory store, whose handler
changes the session only by the server's transitions, keeps the store reachable: both tokens of
every session still lead to it. -/
theorem endpoint_keeps_store_index (errors : ErrorTable) (sessionTokenRegex : String → Bool)
    (sha256 : Bytes → Bytes) (handler : Handler) (acts : ActsByTransitions handler) (r : Request)
    {s : MemorySessionStore} (reachable : MemoryReachable s) :
    MemoryReachable (pairingEndpoint errors sessionTokenRegex sha256 handler r s).2 ∧
      IndexInvariant (pairingEndpoint errors sessionTokenRegex sha256 handler r s).2 ∧
      MemoryReachable (frontendEndpoint errors sessionTokenRegex sha256 handler r s).2 ∧
      IndexInvariant (frontendEndpoint errors sessionTokenRegex sha256 handler r s).2 := by
  have pairing : MemoryReachable (pairingEndpoint errors sessionTokenRegex sha256 handler r s).2 :=
    sessionMiddleware_reachable
      ((show ActsByTransitions (pairingMiddleware errors handler) from acts.pairingMiddleware).cacheMiddleware
        sha256) sessionTokenRegex r reachable
  have frontend : MemoryReachable (frontendEndpoint errors sessionTokenRegex sha256 handler r s).2 :=
    sessionMiddleware_reachable
      ((show ActsByTransitions (frontendMiddleware errors handler) from acts.frontendMiddleware).cacheMiddleware
        sha256) sessionTokenRegex r reachable
  exact ⟨pairing, indexInvariant_reachable pairing, frontend, indexInvariant_reachable frontend⟩

theorem endpoint_keeps_store_index_writeRequest :
    let errors : ErrorTable := ⟨⟨"", 0, ""⟩, ⟨"", 0, ""⟩, ⟨"", 0, ""⟩, ⟨"", 0, ""⟩, ⟨"", 0, ""⟩, ⟨"", 0, ""⟩⟩
    let s := storeWithConnectedSession ⟨"", 0, ""⟩
    ActsByTransitions writeRequest ∧ MemoryReachable s ∧
      MemoryReachable (pairingEndpoint errors (fun _ => true) id writeRequest authorizedGet s).2 ∧
      IndexInvariant (pairingEndpoint errors (fun _ => true) id writeRequest authorizedGet s).2 ∧
      MemoryReachable (frontendEndpoint errors (fun _ => true) id writeRequest authorizedGet s).2 ∧
      IndexInvariant (frontendEndpoint errors (fun _ => true) id writeRequest authorizedGet s).2 :=
  have acts : ActsByTransitions writeRequest := fun _ _ => ⟨[], rfl⟩
  have reachable := storeWithConnectedSession_reachable ⟨"", 0, ""⟩
  ⟨acts, reachable, endpoint_keeps_store_index _ _ id writeRequest acts authorizedGet reachable⟩

end IrmaServer
