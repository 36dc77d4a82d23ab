import IrmaServer.Session.Lifecycle

/-!
# Validating a requestor's request

`Server.validateRequest` and `Server.validateIssuanceRequest` (`helpers.go`), which the server
runs on a requestor's request before `newSession` (§4.6 of the spec). The checks against the
scheme configuration are made by package `irma`, which is not under src/, and are parameters.

`validateRequest` refuses every request that asks for its return URL to be augmented where
`newSession` would not augment it, so `newSession` augments the URL of a validated request
exactly when the request asks for it. `validateIssuanceRequest` accepts an issuance only when
every credential's issuer has a latest private key whose public key has not expired, every
revocation-enabled credential has a revocation key and a revocation server, and every
credential is valid until at least now; it leaves each credential with its issuer's latest key
counter and a validity, six months on when it had none.
-/

namespace IrmaServer

/-- The checks of a request against the scheme configuration that `validateRequest` delegates:
`Download`, `BaseRequest.Validate` and the `Validate` of the disclosure. -/
structure RequestChecks where
  download : SessionRequest → Except String Unit
  validateBase : BaseRequest → Except String Unit
  validateDisclose : AttributeConDisCon → Except String Unit

def validateRequest (checks : RequestChecks) (augmentClientReturnURL : Bool) (request : SessionRequest) :
    Except String Unit := do
  checks.download request
  let base := request.base
  checks.validateBase base
  if base.augmentReturnURL then
    if !augmentClientReturnURL then
      throw "augmenting client return url not enabled in server configuration"
    if base.clientReturnURL = "" then
      throw "cannot augment empty client return url"
  checks.validateDisclose request.disclose

section Augment

variable {checks : RequestChecks} {augment : Bool} {request : SessionRequest}

theorem validateRequest_of_base (download : checks.download request = .ok ())
    (base : checks.validateBase request.base = .ok ()) :
    validateRequest checks augment request =
      if request.base.augmentReturnURL then
        if !augment then .error "augmenting client return url not enabled in server configuration"
        else if request.base.clientReturnURL = "" then .error "cannot augment empty client return url"
        else checks.validateDisclose request.disclose
      else checks.validateDisclose request.disclose := by
  cases asked : request.base.augmentReturnURL <;> cases augment <;>
    by_cases empty : request.base.clientReturnURL = "" <;>
    simp [validateRequest, download, base, asked, empty, bind, Except.bind, throw, throwThe,
      MonadExceptOf.throw, pure, Except.pure]

theorem validateRequest_augment (validated : validateRequest checks augment request = .ok ())
    (asked : request.base.augmentReturnURL = true) :
    augment = true ∧ request.base.clientReturnURL ≠ "" := by
  cases download : checks.download request with
  | error err => simp [validateRequest, download, bind, Except.bind] at validated
  | ok u =>
    cases base : checks.validateBase request.base with
    | error err => simp [validateRequest, download, base, bind, Except.bind] at validated
    | ok v =>
      rw [validateRequest_of_base download base, if_pos asked] at validated
      cases augment
      · simp at validated
      · exact ⟨rfl, fun empty => by simp [empty] at validated⟩

end Augment

/-- For every request `validateRequest` accepts, the session `newSession` creates from it keeps
the requestor's return URL, unless the request sets `AugmentReturnURL`; then it appends
`token=` and the session's requestor token as a query parameter. Once `Download` and
`BaseRequest.Validate` have passed, `validateRequest` refuses, each with its own message, the
requests asking for augmentation that `newSession` would not augment: those to a server whose
setting is off, and those with an empty return URL. -/
theorem validated_newSession_clientReturnURL (checks : RequestChecks) (augment : Bool)
    (request : RequestorRequest) (draws : SessionDraws) (now : Time) (action : Action)
    (disclosed : AttributeConDisCon) (frontendAuth : FrontendAuthorization) :
    (validateRequest checks augment request.request = .ok () →
      (newSession augment draws now action request disclosed frontendAuth).rrequest.request.base.clientReturnURL =
        if request.request.base.augmentReturnURL then
          augmentedReturnURL request.request.base.clientReturnURL draws.requestorToken
        else request.request.base.clientReturnURL) ∧
    (checks.download request.request = .ok () → checks.validateBase request.request.base = .ok () →
      request.request.base.augmentReturnURL = true →
      (augment = false → validateRequest checks augment request.request =
        .error "augmenting client return url not enabled in server configuration") ∧
      (augment = true → request.request.base.clientReturnURL = "" →
        validateRequest checks augment request.request = .error "cannot augment empty client return url")) := by
  refine ⟨fun validated => ?_, fun download base asked => ⟨fun off => ?_, fun enabled empty => ?_⟩⟩
  · cases asked : request.request.base.augmentReturnURL
    · simp [newSession, asked]
    · obtain ⟨enabled, url⟩ := validateRequest_augment validated asked
      simp [newSession, asked, enabled, url]
  · rw [validateRequest_of_base download base, if_pos asked, off]
    rfl
  · rw [validateRequest_of_base download base, if_pos asked, enabled, empty]
    rfl

/-! ## Issuance -/

/-- The fields of `irma.CredentialRequest` that `validateIssuanceRequest` reads and writes: those
of `CredentialRequest`, and the `KeyCounter` and `Validity` it assigns. -/
structure IssuanceCredential extends CredentialRequest where
  keyCounter : Nat
  validity : Option Time
  deriving DecidableEq, Repr

/-- What `validateIssuanceRequest` reads of the scheme configuration: the issuer of a credential
type (`IssuerIdentifier`), the counter of an issuer's latest private key (`PrivateKeys.Latest`,
nil when there is none), the expiry date in Unix seconds of an issuer's public key with a given
counter (`PublicKey`), whether a credential type supports revocation, the revocation settings of
a credential type (its server URL and whether this server is its revocation server, nil when
there are none) and `CredentialRequest.Validate`. -/
structure IssuanceConfiguration where
  issuerIdentifier : String → String
  latestPrivateKey : String → Except String (Option Nat)
  publicKeyExpiry : String → Nat → Except String (Option Int)
  revocationSupported : String → Bool
  revocationSettings : String → Option (String × Bool)
  validate : IssuanceCredential → Except String Unit

section Issuance

variable (conf : IssuanceConfiguration) (allowIssuingExpiredCredentials : Bool) (now defaultValidity : Time)

def revocationCheck (cred : IssuanceCredential) : Except String Unit :=
  if conf.revocationSupported cred.credentialTypeID then
    match conf.revocationSettings cred.credentialTypeID with
    | none => .error ("revocation enabled for " ++ cred.credentialTypeID ++ " but no revocation server configured")
    | some (serverURL, server) =>
      if serverURL = "" ∧ server = false then
        .error ("revocation enabled for " ++ cred.credentialTypeID ++ " but no revocation server configured")
      else if cred.revocationKey = "" then
        .error ("revocation enabled for " ++ cred.credentialTypeID ++ " but no revocationKey specified")
      else .ok ()
  else .ok ()

/-- One round of the loop of `validateIssuanceRequest`, on one credential at time `now`, with
`defaultValidity` six months after it (`AddDate(0, 6, 0)`): the error, if any, and the
credential as the round leaves it. -/
def validateIssuanceCredential (cred : IssuanceCredential) : Except String Unit × IssuanceCredential :=
  let iss := conf.issuerIdentifier cred.credentialTypeID
  match conf.latestPrivateKey iss with
  | .error err => (.error err, cred)
  | .ok none => (.error ("missing private key of issuer " ++ iss), cred)
  | .ok (some counter) =>
    match conf.publicKeyExpiry iss counter with
    | .error err => (.error err, cred)
    | .ok none => (.error ("missing public key of issuer " ++ iss), cred)
    | .ok (some expiryDate) =>
      if expiryDate < now / second then
        (.error ("cannot issue using expired public key " ++ iss ++ "-" ++ toString counter), cred)
      else
        let cred := { cred with keyCounter := counter }
        match revocationCheck conf cred with
        | .error err => (.error err, cred)
        | .ok () =>
          match conf.validate cred with
          | .error err => (.error err, cred)
          | .ok () =>
            let validity := cred.validity.getD defaultValidity
            let cred := { cred with validity := some validity }
            if !allowIssuingExpiredCredentials ∧ validity < now then (.error "cannot issue expired credentials", cred)
            else (.ok (), cred)

/-- `Server.validateIssuanceRequest` at time `now`: the error of the first credential that fails,
if any, and the credentials as the loop leaves them. The loop writes `KeyCounter` and
`Validity` through the credentials' pointers, so a failure leaves the earlier credentials, and
the failing one as far as it got, changed. -/
def validateIssuanceRequest : List IssuanceCredential → Except String Unit × List IssuanceCredential
  | [] => (.ok (), [])
  | cred :: creds =>
    let checked := validateIssuanceCredential conf allowIssuingExpiredCredentials now defaultValidity cred
    match checked.1 with
    | .error err => (.error err, checked.2 :: creds)
    | .ok () =>
      let rest := validateIssuanceRequest creds
      (rest.1, checked.2 :: rest.2)

/-- What a credential that passed the loop at time `now` satisfies: it carries its issuer's
latest key counter, whose public key has not expired; if its type supports revocation, it has a
revocation key and the type a revocation server; and it has a validity, not before `now` unless
expired credentials may be issued. -/
structure IssuanceCredential.Issuable (cred : IssuanceCredential) : Prop where
  keyCounter : conf.latestPrivateKey (conf.issuerIdentifier cred.credentialTypeID) = .ok (some cred.keyCounter)
  publicKey : ∃ expiryDate, conf.publicKeyExpiry (conf.issuerIdentifier cred.credentialTypeID) cred.keyCounter =
    .ok (some expiryDate) ∧ now / second ≤ expiryDate
  revocation : conf.revocationSupported cred.credentialTypeID = true → cred.revocationKey ≠ "" ∧
    ∃ serverURL server, conf.revocationSettings cred.credentialTypeID = some (serverURL, server) ∧
      (serverURL ≠ "" ∨ server = true)
  validity : ∃ validity, cred.validity = some validity ∧ (allowIssuingExpiredCredentials = false → now ≤ validity)

theorem revocationCheck_ok {cred : IssuanceCredential} (ok : revocationCheck conf cred = .ok ())
    (supported : conf.revocationSupported cred.credentialTypeID = true) :
    cred.revocationKey ≠ "" ∧ ∃ serverURL server,
      conf.revocationSettings cred.credentialTypeID = some (serverURL, server) ∧ (serverURL ≠ "" ∨ server = true) := by
  unfold revocationCheck at ok
  rw [if_pos supported] at ok
  split at ok
  · cases ok
  · rename_i serverURL server configured
    split_ifs at ok with unset key
    refine ⟨key, serverURL, server, configured, ?_⟩
    cases server <;> simp_all

theorem validateIssuanceCredential_ok {cred : IssuanceCredential}
    (ok : (validateIssuanceCredential conf allowIssuingExpiredCredentials now defaultValidity cred).1 = .ok ()) :
    ∃ counter, (validateIssuanceCredential conf allowIssuingExpiredCredentials now defaultValidity cred).2 =
        { cred with keyCounter := counter, validity := some (cred.validity.getD defaultValidity) } ∧
      conf.validate { cred with keyCounter := counter } = .ok () ∧
      (validateIssuanceCredential conf allowIssuingExpiredCredentials now defaultValidity cred).2.Issuable
        conf allowIssuingExpiredCredentials now := by
  unfold validateIssuanceCredential at ok ⊢
  cases privateKey : conf.latestPrivateKey (conf.issuerIdentifier cred.credentialTypeID) with
  | error err => simp [privateKey] at ok
  | ok latest =>
    cases latest with
    | none => simp [privateKey] at ok
    | some counter =>
      cases publicKey : conf.publicKeyExpiry (conf.issuerIdentifier cred.credentialTypeID) counter with
      | error err => simp [privateKey, publicKey] at ok
      | ok key =>
        cases key with
        | none => simp [privateKey, publicKey] at ok
        | some expiryDate =>
          by_cases expired : expiryDate < now / second
          · simp [privateKey, publicKey, expired] at ok
          · cases revocation : revocationCheck conf { cred with keyCounter := counter } with
            | error err => simp [privateKey, publicKey, expired, revocation] at ok
            | ok u =>
              cases valid : conf.validate { cred with keyCounter := counter } with
              | error err => simp [privateKey, publicKey, expired, revocation, valid] at ok
              | ok v =>
                cases v
                by_cases late : allowIssuingExpiredCredentials = false ∧ cred.validity.getD defaultValidity < now
                · simp [privateKey, publicKey, expired, revocation, valid, late.1, late.2] at ok
                · simp only [privateKey, publicKey, expired, revocation, valid, if_false]
                  rw [if_neg (by simpa using late)]
                  refine ⟨counter, rfl, valid, ⟨privateKey, ⟨expiryDate, publicKey, Int.not_lt.mp expired⟩,
                    fun supported => revocationCheck_ok conf revocation supported, _, rfl,
                    fun strict => Int.not_lt.mp fun before => late ⟨strict, before⟩⟩⟩

/-- Every issuance request `validateIssuanceRequest` accepts at time `now`: every credential,
as the loop leaves it, is issuable at `now`, carries its issuer's latest key counter and its own
validity or, when it had none, the default, and is otherwise the credential the requestor sent,
which passed `Validate` with that key counter. -/
theorem validateIssuanceRequest_accepts (creds : List IssuanceCredential)
    (ok : (validateIssuanceRequest conf allowIssuingExpiredCredentials now defaultValidity creds).1 = .ok ()) :
    List.Forall₂ (fun cred cred' => (∃ counter,
        cred' = { cred with keyCounter := counter, validity := some (cred.validity.getD defaultValidity) } ∧
          conf.validate { cred with keyCounter := counter } = .ok ()) ∧
        cred'.Issuable conf allowIssuingExpiredCredentials now)
      creds (validateIssuanceRequest conf allowIssuingExpiredCredentials now defaultValidity creds).2 := by
  induction creds with
  | nil => exact .nil
  | cons cred creds ih =>
    simp only [validateIssuanceRequest] at ok ⊢
    split at ok
    · cases ok
    · rename_i checked
      simp only [checked]
      obtain ⟨counter, same, valid, issuable⟩ := validateIssuanceCredential_ok conf allowIssuingExpiredCredentials
        now defaultValidity checked
      exact .cons ⟨⟨counter, same, valid⟩, issuable⟩ (ih ok)

end Issuance

def demoIssuanceConfiguration : IssuanceConfiguration where
  issuerIdentifier _ := "irma-demo.MijnOverheid"
  latestPrivateKey _ := .ok (some 2)
  publicKeyExpiry _ _ := .ok (some 1988150400)
  revocationSupported _ := false
  revocationSettings _ := none
  validate _ := .ok ()

theorem validateIssuanceRequest_accepts_demo :
    let creds : List IssuanceCredential := [⟨⟨"irma-demo.MijnOverheid.root", "", false⟩, 0, none⟩]
    let now : Time := 1735689600 * second
    let defaultValidity : Time := 1751328000 * second
    (validateIssuanceRequest demoIssuanceConfiguration false now defaultValidity creds).1 = .ok () ∧
      List.Forall₂ (fun cred cred' => (∃ counter,
          cred' = { cred with keyCounter := counter, validity := some (cred.validity.getD defaultValidity) } ∧
            demoIssuanceConfiguration.validate { cred with keyCounter := counter } = .ok ()) ∧
          cred'.Issuable demoIssuanceConfiguration false now)
        creds (validateIssuanceRequest demoIssuanceConfiguration false now defaultValidity creds).2 :=
  ⟨rfl, validateIssuanceRequest_accepts _ _ _ _ _ rfl⟩

end IrmaServer
