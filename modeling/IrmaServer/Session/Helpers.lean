import IrmaServer.Session.Data
import Mathlib.Data.String.Lemmas

/-!
# Session helpers

The `sessionData` methods of `helpers.go`: status updates with their result callback,
frontend options and pairing, failure, protocol version negotiation, the response cache
check, the client request, and the remaining lifetime.
-/

namespace IrmaServer

/-- A post of the session result to the requestor's `CallbackURL` (`server.DoResultCallback`). -/
structure ResultCallback where
  url : String
  result : Option SessionResult
  jwtValidity : Int
  deriving DecidableEq, Repr

/-- The package-level settings `chooseProtocolVersion` reads, `AcceptInsecureProtocolVersions`
and `minSecureProtocolVersion`; neither is under src/. -/
structure VersionPolicy where
  acceptInsecureProtocolVersions : Bool
  minSecureProtocolVersion : ProtocolVersion
  deriving DecidableEq, Repr

/-- The fields of `server.Configuration` the lifetime computations read, in minutes. -/
structure Configuration where
  maxSessionLifetime : Int
  sessionResultLifetime : Int
  deriving DecidableEq, Repr

/-- Modelled from the spec: `common.NewPairingCode` is not under src/; the spec says method
`pin` generates an 8-digit pairing code. `seed` is the random draw. -/
def newPairingCode (seed : Nat) : String :=
  String.leftpad 8 '0' (toString (seed % 10 ^ 8))

theorem newPairingCode_ne_empty (seed : Nat) : newPairingCode seed ≠ "" := by
  intro h
  have long : 8 ≤ (newPairingCode seed).length := by
    rw [newPairingCode, String.leftpad_length]
    exact Nat.le_max_left _ _
  simp [h] at long

/-- Modelled from the spec: `irma.LDContextClientSessionRequest` is not under src/; the spec
gives the `@context` of a client session request. -/
def ldContextClientSessionRequest : String := "https://irma.app/ld/request/client/v1"

structure ClientSessionRequest where
  ldContext : String
  protocolVersion : Option ProtocolVersion
  options : SessionOptions
  request : Option SessionRequest
  deriving DecidableEq, Repr

namespace SessionData

def markAlive (sd : SessionData) (now : Time) : SessionData := { sd with lastActive := now }

def doResultCallback (sd : SessionData) : List ResultCallback :=
  if sd.rrequest.base.callbackURL = "" then []
  else [⟨sd.rrequest.base.callbackURL, sd.result, sd.rrequest.base.resultJwtValidity⟩]

/-- `setStatus`. A nil `Result` stays nil here, where Go would dereference it; no reachable
session has one. -/
def setStatus (sd : SessionData) (status : ServerStatus) : SessionData × List ResultCallback :=
  let sd' := { sd with status := status, result := sd.result.map fun r => { r with status := status } }
  (sd', if status.finished then sd'.doResultCallback else [])

def updateFrontendOptions (sd : SessionData) (request : FrontendOptionsRequest) (seed : Nat) :
    Except String SessionOptions × SessionData :=
  if sd.status ≠ .initialized then
    (.error "Frontend options can only be updated when session is in initialized state", sd)
  else if request.pairingMethod = "" then (.ok sd.options, sd)
  else
    let code? :=
      if request.pairingMethod = pairingMethodNone then some ""
      else if request.pairingMethod = pairingMethodPin then some (newPairingCode seed)
      else none
    match code? with
    | none => (.error "Pairing method unknown", sd)
    | some code =>
      let options := { sd.options with pairingCode := code, pairingMethod := request.pairingMethod }
      (.ok options, { sd with options := options })

def pairingCompleted (sd : SessionData) : Except String Unit × SessionData × List ResultCallback :=
  if sd.status = .pairing then (.ok (), sd.setStatus .connected)
  else (.error "Pairing was not enabled", sd, [])

def fail (sd : SessionData) (err : ServerError) (message : String) :
    RemoteError × SessionData × List ResultCallback :=
  let rerr := err.remote message
  let result : SessionResult :=
    { token := sd.requestorToken, status := .cancelled, type := sd.action, proofStatus := "",
      disclosed := [], err := some rerr, legacySession := false }
  (rerr, { sd with result := some result }.setStatus .cancelled)

def minSessionProtocolVersion (sd : SessionData) (policy : VersionPolicy) : ProtocolVersion :=
  if policy.acceptInsecureProtocolVersions then
    let v := if !sd.legacyCompatible then newVersion 2 5 else minProtocolVersion
    let v := if 0 < sd.rrequest.request.base.revocation.length then newVersion 2 6 else v
    if sd.rrequest.base.nextSession.isSome then newVersion 2 7 else v
  else policy.minSecureProtocolVersion

def chooseProtocolVersion (sd : SessionData) (policy : VersionPolicy)
    (minClient maxClient : ProtocolVersion) : Except String ProtocolVersion :=
  let minSession := sd.minSessionProtocolVersion policy
  if minClient.aboveVersion maxProtocolVersion || maxClient.belowVersion minSession ||
      maxClient.belowVersion minClient then
    .error ("Protocol version negotiation failed, min=" ++ minClient.toString ++ " max=" ++
      maxClient.toString ++ " minServer=" ++ minSession.toString ++ " maxServer=" ++
      maxProtocolVersion.toString)
  else if maxClient.aboveVersion maxProtocolVersion then .ok maxProtocolVersion
  else .ok maxClient

/-- Whether `checkCache` finds the cached response applicable (the negation of its guard);
`sha256` is the digest function. -/
def cacheApplies (sd : SessionData) (sha256 : Bytes → Bytes) (endpoint : String)
    (message : Bytes) (now : Time) : Bool :=
  sd.responseCache.endpoint = endpoint && !sd.responseCache.response.isEmpty &&
    sd.responseCache.sessionStatus = some sd.status && !(sd.lastActive < now - retryTimeLimit) &&
    sha256 sd.responseCache.message = sha256 message

def checkCache (sd : SessionData) (sha256 : Bytes → Bytes) (endpoint : String) (message : Bytes)
    (now : Time) : (Int × Body) × SessionData :=
  if sd.cacheApplies sha256 endpoint message now then
    ((sd.responseCache.status, sd.responseCache.response), sd)
  else ((0, .bytes []), { sd with responseCache := .empty })

def getRequest (sd : SessionData) : SessionRequest :=
  match sd.rrequest.request.type with
  | .issuing credentials =>
    { sd.rrequest.request with
      type := .issuing (credentials.map fun cred =>
        { cred with revocationSupported := cred.revocationKey ≠ "", revocationKey := "" }) }
  | _ => sd.rrequest.request

def getClientRequest (sd : SessionData) : ClientSessionRequest :=
  { ldContext := ldContextClientSessionRequest, protocolVersion := sd.version,
    options := sd.options,
    request := if sd.options.pairingMethod = pairingMethodNone then some sd.getRequest else none }

def timeout (sd : SessionData) (conf : Configuration) (now : Time) : Duration :=
  let maxSessionDuration :=
    if sd.status = .initialized ∧ sd.rrequest.base.clientTimeout ≠ 0 then
      durationOf sd.rrequest.base.clientTimeout second
    else if sd.status.finished then 0
    else durationOf conf.maxSessionLifetime minute
  wrapInt64 (maxSessionDuration - (now - sd.lastActive))

def ttl (sd : SessionData) (conf : Configuration) (now : Time) : Duration :=
  wrapInt64 (sd.timeout conf now + durationOf conf.sessionResultLifetime minute)

/-! ## Spec lemmas -/

@[simp] theorem markAlive_eq (sd : SessionData) (now : Time) :
    sd.markAlive now = { sd with lastActive := now } := rfl

@[simp] theorem setStatus_fst (sd : SessionData) (status : ServerStatus) :
    (sd.setStatus status).1 =
      { sd with status := status, result := sd.result.map fun r => { r with status := status } } :=
  rfl

theorem setStatus_snd (sd : SessionData) (status : ServerStatus) :
    (sd.setStatus status).2 = if status.finished then (sd.setStatus status).1.doResultCallback else [] :=
  rfl

@[simp] theorem setStatus_snd_of_not_finished {sd : SessionData} {status : ServerStatus}
    (h : status.finished = false) : (sd.setStatus status).2 = [] := by
  simp [setStatus_snd, h]

theorem getRequest_hides_revocation_keys (sd : SessionData) {creds : List CredentialRequest}
    (issuing : sd.getRequest.type = .issuing creds) : ∀ cred ∈ creds, cred.revocationKey = "" := by
  unfold getRequest at issuing
  split at issuing
  · cases issuing
    intro cred mem
    obtain ⟨_, -, rfl⟩ := List.mem_map.mp mem
    rfl
  · rename_i notIssuing
    exact absurd issuing (notIssuing _)

theorem pairingCompleted_eq (sd : SessionData) :
    (sd.pairingCompleted).2 = if sd.status = .pairing then ((sd.setStatus .connected).1, []) else (sd, []) := by
  unfold pairingCompleted
  split
  · exact Prod.ext rfl (setStatus_snd_of_not_finished rfl)
  · rfl

theorem fail_snd (sd : SessionData) (err : ServerError) (message : String) :
    (sd.fail err message).2 = { sd with result := some ⟨sd.requestorToken, .cancelled, sd.action,
      "", [], some (err.remote message), false⟩ }.setStatus .cancelled := rfl

theorem updateFrontendOptions_cases (sd : SessionData) (request : FrontendOptionsRequest) (seed : Nat) :
    (sd.updateFrontendOptions request seed).2 = sd ∨
      sd.status = .initialized ∧
      (request.pairingMethod = pairingMethodNone ∧
        (sd.updateFrontendOptions request seed).2 =
          { sd with options := ⟨request.pairingMethod, ""⟩ } ∨
       request.pairingMethod = pairingMethodPin ∧
        (sd.updateFrontendOptions request seed).2 =
          { sd with options := ⟨request.pairingMethod, newPairingCode seed⟩ }) := by
  unfold updateFrontendOptions
  split_ifs <;> simp_all

theorem updateFrontendOptions_rejects {sd : SessionData} {request : FrontendOptionsRequest}
    {seed : Nat} (h : sd.status ≠ .initialized ∨ request.pairingMethod ∉
      [pairingMethodNone, pairingMethodPin, ""]) :
    (sd.updateFrontendOptions request seed).1.isOk = false ∧
      (sd.updateFrontendOptions request seed).2 = sd := by
  unfold updateFrontendOptions
  split_ifs <;> simp_all [Except.isOk, Except.toBool]

theorem getClientRequest_request (sd : SessionData) :
    sd.getClientRequest.request.isSome = true ↔ sd.options.pairingMethod = pairingMethodNone := by
  simp [getClientRequest]

end SessionData

end IrmaServer
