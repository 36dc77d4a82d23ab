import IrmaServer.Messages
import Mathlib.Data.Finmap
import Mathlib.Data.Finset.Sort
import Mathlib.Data.String.Basic

/-!
# Session data

`sessionData` (`sessions.go`) with the request, option, result and cache records it holds,
and the time constants of the session code. Times are nanoseconds on the wall clock;
durations are `int64` nanoseconds, so products that form a duration wrap as Go's do.
-/

namespace IrmaServer

abbrev Time := Int

abbrev Duration := Int

/-- Two's-complement wrap-around of `int64` arithmetic. -/
def wrapInt64 (x : Int) : Int := (x + 2 ^ 63) % 2 ^ 64 - 2 ^ 63

def millisecond : Duration := 1000000
def second : Duration := 1000 * millisecond
def minute : Duration := 60 * second

/-- `time.Duration(n) * unit`, computed in `int64`. -/
def durationOf (n : Int) (unit : Duration) : Duration := wrapInt64 (n * unit)

def maxSessionLifetime : Duration := 5 * minute
def maxLockLifetime : Duration := 500 * millisecond
def retryTimeLimit : Duration := 10 * second

def minProtocolVersion : ProtocolVersion := newVersion 2 4
def maxProtocolVersion : ProtocolVersion := newVersion 2 8

abbrev Bytes := List UInt8

/-! ## Requests -/

structure AttributeRequest where
  type : String
  value : Option String
  deriving DecidableEq, Repr

abbrev AttributeConDisCon := List (List (List AttributeRequest))

structure CredentialRequest where
  credentialTypeID : String
  revocationKey : String
  revocationSupported : Bool
  deriving DecidableEq, Repr

/-- The fields of `irma.BaseRequest` the server reads or writes; `legacy` is what `Legacy()`
returns and `revocation` lists the credential types of `Revocation`. -/
structure BaseRequest where
  context : Option Nat
  nonce : Option Nat
  revocation : List String
  clientReturnURL : String
  augmentReturnURL : Bool
  host : String
  legacy : Bool
  deriving DecidableEq, Repr

inductive RequestType
  | disclosing
  | signing (message : String)
  | issuing (credentials : List CredentialRequest)
  deriving DecidableEq, Repr

structure SessionRequest where
  base : BaseRequest
  disclose : AttributeConDisCon
  type : RequestType
  deriving DecidableEq, Repr

structure RequestorBaseRequest where
  resultJwtValidity : Int
  clientTimeout : Int
  callbackURL : String
  nextSession : Option String
  deriving DecidableEq, Repr

/-- `irma.RequestorRequest`: `base` is what `Base()` returns, `request` what
`SessionRequest()` returns. -/
structure RequestorRequest where
  base : RequestorBaseRequest
  request : SessionRequest
  deriving DecidableEq, Repr

/-! ## Options, results and the response cache -/

/-- Modelled from the spec: `irma.PairingMethodNone` is not under src/; the spec names the
pairing methods `none` and `pin`. -/
def pairingMethodNone : String := "none"

/-- Modelled from the spec: `irma.PairingMethodPin` is not under src/. -/
def pairingMethodPin : String := "pin"

@[simp] theorem pairingMethodNone_ne_empty : pairingMethodNone ≠ "" := by decide
@[simp] theorem pairingMethodPin_ne_empty : pairingMethodPin ≠ "" := by decide
@[simp] theorem pairingMethodPin_ne_none : pairingMethodPin ≠ pairingMethodNone := by decide
@[simp] theorem pairingMethodNone_ne_pin : pairingMethodNone ≠ pairingMethodPin := by decide

structure SessionOptions where
  pairingMethod : String
  pairingCode : String
  deriving DecidableEq, Repr

structure FrontendOptionsRequest where
  pairingMethod : String
  deriving DecidableEq, Repr

/-- The fields of `server.SessionResult` the session code sets. -/
structure SessionResult where
  token : RequestorToken
  status : ServerStatus
  type : Action
  proofStatus : String
  disclosed : AttributeConDisCon
  err : Option RemoteError
  legacySession : Bool
  deriving DecidableEq, Repr

/-- What a handler writes: the JSON envelope of `server.WriteError`, or bytes of its own. -/
inductive Body
  | remoteError (err : RemoteError)
  | bytes (b : Bytes)
  deriving DecidableEq, Repr

def Body.isEmpty : Body → Bool
  | .remoteError _ => false
  | .bytes b => b.isEmpty

structure Response where
  status : Int
  body : Body
  deriving DecidableEq, Repr

/-- `responseCache`; `sessionStatus` is `none` for the zero value `""`. -/
structure ResponseCache where
  endpoint : String
  message : Bytes
  response : Body
  status : Int
  sessionStatus : Option ServerStatus
  deriving DecidableEq, Repr

def ResponseCache.empty : ResponseCache := ⟨"", [], .bytes [], 0, none⟩

/-! ## Keyshare proofs -/

/-- `irma.SchemeManagerIdentifier`: its `Name()`, and the key `encoding/json` writes for it,
is the identifier itself. -/
abbrev SchemeManagerIdentifier := String

/-- `gabi.ProofP`, the proof a keyshare server gives of its share of the secret key (package
gabi is not under src/). -/
structure ProofP where
  p : Int
  c : Int
  sResponse : Int
  deriving DecidableEq, Repr

/-- `map[irma.SchemeManagerIdentifier]*P`, as `KssProofs`: a Go map has no order, and each value
is a pointer that may be nil. -/
abbrev KssProofs (P : Type) := Finmap fun _ : SchemeManagerIdentifier => Option P

/-- The schemes of the map in the order `encoding/json` writes map keys in: sorted. -/
def KssProofs.schemes {P : Type} (m : KssProofs P) : List SchemeManagerIdentifier :=
  m.keys.sort (· ≤ ·)

instance {P : Type} [Repr P] : Repr (KssProofs P) where
  reprPrec m _ := repr (m.schemes.map fun scheme => (scheme, m.lookup scheme))

/-- `sessionData`, the persisted part of a session; `kssProofs` is `none` for a nil map. -/
structure SessionData where
  action : Action
  requestorToken : RequestorToken
  clientToken : ClientToken
  version : Option ProtocolVersion
  rrequest : RequestorRequest
  legacyCompatible : Bool
  status : ServerStatus
  prevStatus : ServerStatus
  responseCache : ResponseCache
  lastActive : Time
  result : Option SessionResult
  kssProofs : Option (KssProofs ProofP) := none
  next : Option Qr
  frontendAuth : FrontendAuthorization
  implicitDisclosure : AttributeConDisCon
  options : SessionOptions
  clientAuth : ClientAuthorization
  deriving DecidableEq, Repr

structure ServerError where
  type : String
  status : Int
  description : String
  deriving DecidableEq, Repr

def ServerError.remote (err : ServerError) (message : String) : RemoteError :=
  ⟨err.status, err.type, err.description, message, ""⟩

end IrmaServer
