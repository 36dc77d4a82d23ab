import IrmaServer.Session.Helpers

/-!
# Session lifecycle

`newSession` (`sessions.go`) and every operation the server applies to one session: the
helpers of `helpers.go`, the per-session checks of `memorySessionStore.deleteExpired` and
`redisSessionStore.clientGet`, the two halves of `cacheMiddleware` around its handler, and
the client's fetch and response, whose handlers are not under src/ and are modelled from
§4.6 of the spec. `Reachable` collects the states these operations reach from a new session.
-/

namespace IrmaServer

/-- The random values `newSession` draws: two `common.NewSessionToken`s, a third for the
frontend authorization when none is given, and the nonce of `gabi.GenerateNonce`. -/
structure SessionDraws where
  clientToken : ClientToken
  requestorToken : RequestorToken
  frontendAuth : FrontendAuthorization
  nonce : Nat
  deriving DecidableEq, Repr

def augmentedReturnURL (url : String) (token : RequestorToken) : String :=
  if url.contains '?' then url ++ "&token=" ++ token else url ++ "?token=" ++ token

/-- `Server.newSession`, up to storing the session; `augmentClientReturnURL` is the server's
`AugmentClientReturnURL` setting. `Base()` is a pointer into the request, so the augmented
URL, nonce and context end up in the stored request. -/
def newSession (augmentClientReturnURL : Bool) (draws : SessionDraws) (now : Time)
    (action : Action) (request : RequestorRequest) (disclosed : AttributeConDisCon)
    (frontendAuth : FrontendAuthorization) : SessionData :=
  let frontendAuth := if frontendAuth.length = 0 then draws.frontendAuth else frontendAuth
  let base := request.request.base
  let url :=
    if augmentClientReturnURL && base.augmentReturnURL && base.clientReturnURL != "" then
      augmentedReturnURL base.clientReturnURL draws.requestorToken
    else base.clientReturnURL
  let base := { base with clientReturnURL := url, nonce := some draws.nonce, context := some 1 }
  { action := action, requestorToken := draws.requestorToken, clientToken := draws.clientToken,
    version := none, rrequest := { request with request := { request.request with base := base } },
    legacyCompatible := false, status := .initialized, prevStatus := .initialized,
    responseCache := .empty, lastActive := now,
    result := some { token := draws.requestorToken, status := .initialized, type := action,
                     proofStatus := "", disclosed := [], err := none, legacySession := base.legacy },
    next := none, frontendAuth := frontendAuth, implicitDisclosure := disclosed,
    options := ⟨pairingMethodNone, ""⟩, clientAuth := "" }

namespace SessionData

def memoryTimeout (sd : SessionData) : Duration :=
  if sd.status = .initialized ∧ sd.rrequest.base.clientTimeout ≠ 0 then
    durationOf sd.rrequest.base.clientTimeout second
  else maxSessionLifetime

/-- The check `memorySessionStore.deleteExpired` makes of one session under its lock: the
session afterwards, whether its token joins `expired`, and the callbacks posted. -/
def deleteExpiredCheck (sd : SessionData) (now : Time) :
    SessionData × Bool × List ResultCallback :=
  if sd.lastActive + sd.memoryTimeout < now then
    if !sd.status.finished then
      let (sd', posted) := (sd.markAlive now).setStatus .timeout
      (sd', false, posted)
    else (sd, true, [])
  else (sd, false, [])

/-- The expiry check `redisSessionStore.clientGet` makes of a session it has just loaded. -/
def clientGetExpiryCheck (sd : SessionData) (now : Time) : SessionData × List ResultCallback :=
  if sd.lastActive + maxSessionLifetime < now && !sd.status.finished then
    (sd.markAlive now).setStatus .timeout
  else (sd, [])

/-- Modelled from the spec (§4.6, "On client fetch"): the handler is not under src/. In
`INITIALIZED` the server negotiates the version (§4.3) and fails the session with
`unsupported` when that fails; otherwise it records the version and the client's
authorization and moves to `PAIRING` when a pairing method is set (§4.1), else to
`CONNECTED`. In any other status the request is refused and nothing changes. -/
def clientConnect (sd : SessionData) (policy : VersionPolicy) (unsupported : ServerError)
    (minClient maxClient : ProtocolVersion) (clientAuth : ClientAuthorization) (now : Time) :
    SessionData × List ResultCallback :=
  if sd.status ≠ .initialized then (sd, [])
  else
    match sd.chooseProtocolVersion policy minClient maxClient with
    | .error message => (sd.fail unsupported message).2
    | .ok version =>
      let sd' := { (sd.markAlive now) with version := some version, clientAuth := clientAuth }
      sd'.setStatus (if sd.options.pairingMethod ≠ pairingMethodNone then .pairing else .connected)

/-- Modelled from the spec (§4.6, "On client response"): the handler is not under src/. In
`CONNECTED` the server takes the verdict of the crypto collaborator; on success it fills
`Result` with the proof status and disclosed attributes, records the chained session and
moves to `DONE`, and on failure it fails the session with `rejected`. In any other status
the request is refused and nothing changes. -/
def clientResponse (sd : SessionData) (valid : Bool) (proofStatus : String)
    (disclosed : AttributeConDisCon) (next : Option Qr) (rejected : ServerError) (now : Time) :
    SessionData × List ResultCallback :=
  if sd.status ≠ .connected then (sd, [])
  else if valid then
    let sd' := { (sd.markAlive now) with
      result := sd.result.map fun (r : SessionResult) => { r with proofStatus := proofStatus, disclosed := disclosed },
      next := next }
    sd'.setStatus .done
  else ((sd.markAlive now).fail rejected "").2

end SessionData

/-- The operations of the server on one session, outside the response cache. -/
inductive SessionOp
  | updateFrontendOptions (request : FrontendOptionsRequest) (seed : Nat)
  | pairingCompleted
  | fail (err : ServerError) (message : String)
  | deleteExpiredCheck (now : Time)
  | clientGetExpiryCheck (now : Time)
  | clientConnect (policy : VersionPolicy) (unsupported : ServerError)
      (minClient maxClient : ProtocolVersion) (clientAuth : ClientAuthorization) (now : Time)
  | clientResponse (valid : Bool) (proofStatus : String) (disclosed : AttributeConDisCon)
      (next : Option Qr) (rejected : ServerError) (now : Time)

def SessionOp.apply : SessionOp → SessionData → SessionData × List ResultCallback
  | .updateFrontendOptions request seed, sd => ((sd.updateFrontendOptions request seed).2, [])
  | .pairingCompleted, sd => sd.pairingCompleted.2
  | .fail err message, sd => (sd.fail err message).2
  | .deleteExpiredCheck now, sd => ((sd.deleteExpiredCheck now).1, (sd.deleteExpiredCheck now).2.2)
  | .clientGetExpiryCheck now, sd => sd.clientGetExpiryCheck now
  | .clientConnect policy unsupported minClient maxClient clientAuth now, sd =>
    sd.clientConnect policy unsupported minClient maxClient clientAuth now
  | .clientResponse valid proofStatus disclosed next rejected now, sd =>
    sd.clientResponse valid proofStatus disclosed next rejected now

def SessionData.recordResponse (sd : SessionData) (endpoint : String) (message : Bytes)
    (response : Response) : SessionData :=
  { sd with responseCache := ⟨endpoint, message, response.body, response.status, some sd.status⟩ }

/-- A step of a session: an operation, or one of the two halves of `cacheMiddleware`. -/
inductive Transition
  | op (o : SessionOp)
  | checkCache (sha256 : Bytes → Bytes) (endpoint : String) (message : Bytes) (now : Time)
  | recordResponse (endpoint : String) (message : Bytes) (response : Response)

def Transition.apply : Transition → SessionData → SessionData × List ResultCallback
  | .op o, sd => o.apply sd
  | .checkCache sha256 endpoint message now, sd => ((sd.checkCache sha256 endpoint message now).2, [])
  | .recordResponse endpoint message response, sd => (sd.recordResponse endpoint message response, [])

/-- The sessions a run of the server can produce. -/
inductive Reachable : SessionData → Prop
  | newSession (augmentClientReturnURL : Bool) (draws : SessionDraws) (now : Time)
      (action : Action) (request : RequestorRequest) (disclosed : AttributeConDisCon)
      (frontendAuth : FrontendAuthorization) :
      Reachable (newSession augmentClientReturnURL draws now action request disclosed frontendAuth)
  | step {sd : SessionData} (t : Transition) : Reachable sd → Reachable (t.apply sd).1

def Transition.run : List Transition → SessionData → SessionData × List ResultCallback
  | [], sd => (sd, [])
  | t :: ts, sd =>
    let (sd', posted) := t.apply sd
    let (sd'', posted') := Transition.run ts sd'
    (sd'', posted ++ posted')

@[simp] theorem Transition.run_nil (sd : SessionData) : Transition.run [] sd = (sd, []) := rfl

@[simp] theorem Transition.run_cons_fst (t : Transition) (ts : List Transition) (sd : SessionData) :
    (Transition.run (t :: ts) sd).1 = (Transition.run ts (t.apply sd).1).1 := rfl

theorem Transition.run_append_fst (ts us : List Transition) (sd : SessionData) :
    (Transition.run (ts ++ us) sd).1 = (Transition.run us (Transition.run ts sd).1).1 := by
  induction ts generalizing sd with
  | nil => rfl
  | cons t ts ih => exact ih _

theorem Reachable.run {sd : SessionData} (reachable : Reachable sd) :
    ∀ ts : List Transition, Reachable (Transition.run ts sd).1 := by
  intro ts
  induction ts generalizing sd with
  | nil => exact reachable
  | cons t ts ih => exact ih (reachable.step t)

end IrmaServer
