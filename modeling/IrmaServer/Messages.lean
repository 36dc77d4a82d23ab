import Mathlib.Order.Basic
import Mathlib.Algebra.Group.Int
import Mathlib.Algebra.Group.Nat.Basic

/-!
# Wire types of `messages.go`

Server statuses, protocol versions, actions, QR payloads and remote errors, as the session
code reads them.
-/

namespace IrmaServer

/-- `irma.ServerStatus`; the six values the server ever assigns. -/
inductive ServerStatus
  | initialized
  | pairing
  | connected
  | cancelled
  | done
  | timeout
  deriving DecidableEq, Repr

def ServerStatus.finished : ServerStatus → Bool
  | .initialized | .pairing | .connected => false
  | .done | .cancelled | .timeout => true

structure ProtocolVersion where
  major : Int
  minor : Int
  deriving DecidableEq, Repr

def newVersion (major minor : Int) : ProtocolVersion := ⟨major, minor⟩

def ProtocolVersion.toString (v : ProtocolVersion) : String :=
  ToString.toString v.major ++ "." ++ ToString.toString v.minor

def ProtocolVersion.below (v : ProtocolVersion) (major minor : Int) : Bool :=
  if v.major < major then true else v.major == major && v.minor < minor

def ProtocolVersion.belowVersion (v other : ProtocolVersion) : Bool :=
  v.below other.major other.minor

def ProtocolVersion.above (v : ProtocolVersion) (major minor : Int) : Bool :=
  if v.major > major then true else v.major == major && v.minor > minor

def ProtocolVersion.aboveVersion (v other : ProtocolVersion) : Bool :=
  v.above other.major other.minor

def getMetadataVersion (v : ProtocolVersion) : UInt8 :=
  if v.below 2 3 then 0x02 else 0x03

abbrev Action := String

def actionDisclosing : Action := "disclosing"
def actionSigning : Action := "signing"
def actionIssuing : Action := "issuing"
def actionRedirect : Action := "redirect"

abbrev RequestorToken := String
abbrev ClientToken := String
/-- `ParseClientToken`; `sessionTokenRegex` says whether `common.SessionTokenRegex`, which is
not under src/, matches the input. -/
def parseClientToken (sessionTokenRegex : String → Bool) (input : String) : Except String ClientToken :=
  if sessionTokenRegex input then .ok input
  else .error "string did not pass input validation for clientToken"

abbrev ClientAuthorization := String
abbrev FrontendAuthorization := String

/-- `irma.RemoteError`, the error envelope returned to clients and requestors. Its texts are Go
strings that are valid UTF-8, as every `String` is; `encoding/json` writes the bytes of a Go
string that is not as U+FFFD, and such strings are outside the model. -/
structure RemoteError where
  status : Int
  errorName : String
  description : String
  message : String
  stacktrace : String
  deriving DecidableEq, Repr

structure Qr where
  url : String
  type : Action
  deriving DecidableEq, Repr

def Qr.isQr (qr : Qr) : Bool :=
  qr.type == actionDisclosing || qr.type == actionIssuing || qr.type == actionSigning ||
    qr.type == actionRedirect

end IrmaServer
