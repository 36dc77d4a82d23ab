import IrmaServer.Session.Validation

/-!
# Issuance with revocation

`sessionData.computeWitness` and `sessionData.computeAttributes` (`helpers.go`), which the
issuance handler calls for each credential after `validateIssuanceRequest`. When the credential
type and the client both support revocation, `computeWitness` syncs the revocation database,
takes the signed accumulator of the latest update for the credential's key, verifies it with
the issuer's public key and draws a witness from it; `computeAttributes` puts the witness's `E`
in the credential's nonrevocation attribute and saves an issuance record under the credential's
revocation key. The revocation storage and the credential type's `AttributeList` are outside
src/ and are parameters here, each call fallible as its Go signature says.

So an issuance record is saved only for a credential issued with revocation, and it binds the
credential's revocation key, the issuing key and the issuance time to the very `E` the issued
credential carries; and for a credential that `validateIssuanceRequest` accepted, that key is
not empty.
-/

namespace IrmaServer

/-- `revocation.Witness`, with the fields `computeAttributes` reads or writes: the value `E` of
the nonrevocation attribute, and the signed accumulator the witness was drawn from. -/
structure Witness (Sig : Type) where
  e : Int
  signedAccumulator : Option Sig
  deriving DecidableEq, Repr

/-- What `computeWitness` calls of the scheme's revocation storage (`Revocation`), for one issuer
private key: `SyncDB`; `LatestUpdates` for a credential type and a key counter, as the signed
accumulator of the latest update of each key (nil when there is none); the `PKCounter` of a
signed accumulator; `Keys.PublicKey`; `UnmarshalVerify`; and `revocation.RandomWitness` with the
private key. -/
structure RevocationStorage (Sig Pk Acc : Type) where
  syncDB : String → Except String Unit
  latestUpdates : String → Nat → Except String (Nat → Option Sig)
  pkCounter : Sig → Nat
  publicKey : String → Nat → Except String Pk
  unmarshalVerify : Sig → Pk → Except String Acc
  randomWitness : Acc → Except String (Witness Sig)

structure AttributeList where
  ints : List Int
  expiry : Time
  deriving DecidableEq, Repr

structure IssuanceRecord where
  credType : String
  pkCounter : Nat
  key : String
  attr : Option Int
  issued : Time
  validUntil : Time
  deriving DecidableEq, Repr

section Issuance

variable {Sig Pk Acc : Type} (conf : IssuanceConfiguration) (rs : RevocationStorage Sig Pk Acc)
  (requestRevocationSupported : Bool)

/-- `sessionData.computeWitness`: no witness unless the credential type and the session request
(`RevocationSupported()` of its base, a parameter) both support revocation; otherwise the witness
drawn from the latest update of the credential's key, carrying that update's signed
accumulator. -/
def computeWitness (cred : IssuanceCredential) : Except String (Option (Witness Sig)) :=
  let id := cred.credentialTypeID
  if !conf.revocationSupported id || !requestRevocationSupported then .ok none
  else
    match rs.syncDB id with
    | .error err => .error err
    | .ok () =>
      match rs.latestUpdates id cred.keyCounter with
      | .error err => .error err
      | .ok updates =>
        match updates cred.keyCounter with
        | none => .error ("no revocation updates found for key " ++ toString cred.keyCounter)
        | some sig =>
          match rs.publicKey (conf.issuerIdentifier id) (rs.pkCounter sig) with
          | .error err => .error err
          | .ok pk =>
            match rs.unmarshalVerify sig pk with
            | .error err => .error err
            | .ok acc =>
              match rs.randomWitness acc with
              | .error err => .error err
              | .ok witness => .ok (some { witness with signedAccumulator := some sig })

def issuanceRecord (skCounter : Nat) (now : Time) (cred : IssuanceCredential) (expiry : Time)
    (witness : Witness Sig) : IssuanceRecord :=
  ⟨cred.credentialTypeID, skCounter, cred.revocationKey, some witness.e, now, expiry⟩

variable (attributeList : IssuanceCredential → Option Int → Time → Except String AttributeList)
  (saveIssuanceRecord : IssuanceRecord → Except String Unit) (skCounter : Nat) (now : Time)

/-- `sessionData.computeAttributes` with the private key of counter `skCounter`, at time `now`:
the attributes and the witness, or the error; and the issuance records handed to
`SaveIssuanceRecord`. -/
def computeAttributes (cred : IssuanceCredential) :
    Except String (List Int × Option (Witness Sig)) × List IssuanceRecord :=
  match computeWitness conf rs requestRevocationSupported cred with
  | .error err => (.error err, [])
  | .ok witness =>
    match attributeList cred (witness.map Witness.e) now with
    | .error err => (.error err, [])
    | .ok attributes =>
      match witness with
      | none => (.ok (attributes.ints, none), [])
      | some w =>
        let record := issuanceRecord skCounter now cred attributes.expiry w
        match saveIssuanceRecord record with
        | .error err => (.error err, [record])
        | .ok () => (.ok (attributes.ints, some w), [record])

theorem computeWitness_ok {cred : IssuanceCredential} {witness : Option (Witness Sig)}
    (ok : computeWitness conf rs requestRevocationSupported cred = .ok witness) :
    witness.isSome = (conf.revocationSupported cred.credentialTypeID && requestRevocationSupported) ∧
      ∀ w, witness = some w → ∃ updates sig,
        rs.latestUpdates cred.credentialTypeID cred.keyCounter = .ok updates ∧ updates cred.keyCounter = some sig ∧
          w.signedAccumulator = some sig := by
  unfold computeWitness at ok
  dsimp only at ok
  split at ok
  · rename_i unsupported
    cases ok
    simp only [Bool.or_eq_true, Bool.not_eq_true'] at unsupported
    exact ⟨by rcases unsupported with h | h <;> simp [h], nofun⟩
  · rename_i supported
    split at ok <;> try cases ok
    split at ok <;> try cases ok
    rename_i updates latest
    split at ok <;> try cases ok
    rename_i sig found
    split at ok <;> try cases ok
    split at ok <;> try cases ok
    split at ok <;> cases ok
    refine ⟨by simpa using supported, fun w signed => ⟨updates, sig, latest, found, ?_⟩⟩
    cases signed
    rfl

theorem computeWitness_supported {cred : IssuanceCredential} {w : Witness Sig}
    (ok : computeWitness conf rs requestRevocationSupported cred = .ok (some w)) :
    conf.revocationSupported cred.credentialTypeID = true ∧ requestRevocationSupported = true := by
  simpa using (computeWitness_ok conf rs requestRevocationSupported ok).1.symm

theorem computeAttributes_cases (cred : IssuanceCredential) :
    let call := computeAttributes conf rs requestRevocationSupported attributeList saveIssuanceRecord skCounter now cred
    (call.2 = [] ∧ ∀ result, call.1 ≠ .ok result) ∨
      ∃ witness attributes, computeWitness conf rs requestRevocationSupported cred = .ok witness ∧
        attributeList cred (witness.map Witness.e) now = .ok attributes ∧
        call.2 = (witness.map (issuanceRecord skCounter now cred attributes.expiry)).toList ∧
        ∀ result, call.1 = .ok result → result = (attributes.ints, witness) := by
  intro call
  cases computed : computeWitness conf rs requestRevocationSupported cred with
  | error err => exact .inl (by simp [call, computeAttributes, computed])
  | ok witness =>
    cases built : attributeList cred (witness.map Witness.e) now with
    | error err => exact .inl (by simp [call, computeAttributes, computed, built])
    | ok attributes =>
      refine .inr ⟨witness, attributes, rfl, built, ?_⟩
      cases witness with
      | none =>
        rw [Option.map_none'] at built
        simp [call, computeAttributes, computed, built]
      | some w =>
        rw [Option.map_some'] at built
        simp only [call, computeAttributes, computed, Option.map_some', built]
        split <;> simp

theorem computeAttributes_ok {cred : IssuanceCredential} {ints : List Int} {witness : Option (Witness Sig)}
    (ok : (computeAttributes conf rs requestRevocationSupported attributeList saveIssuanceRecord skCounter now
      cred).1 = .ok (ints, witness)) :
    computeWitness conf rs requestRevocationSupported cred = .ok witness ∧
      ∃ attributes, attributeList cred (witness.map Witness.e) now = .ok attributes ∧ ints = attributes.ints ∧
        (computeAttributes conf rs requestRevocationSupported attributeList saveIssuanceRecord skCounter now
          cred).2 = (witness.map (issuanceRecord skCounter now cred attributes.expiry)).toList := by
  rcases computeAttributes_cases conf rs requestRevocationSupported attributeList saveIssuanceRecord skCounter now
    cred with ⟨-, failed⟩ | ⟨witness', attributes, computed, built, records, result⟩
  · exact absurd ok (failed _)
  · obtain ⟨rfl, rfl⟩ := Prod.mk.inj (result _ ok)
    exact ⟨computed, attributes, built, rfl, records⟩

theorem computeAttributes_records {cred : IssuanceCredential} {record : IssuanceRecord}
    (saved : record ∈ (computeAttributes conf rs requestRevocationSupported attributeList saveIssuanceRecord
      skCounter now cred).2) :
    ∃ w expiry, computeWitness conf rs requestRevocationSupported cred = .ok (some w) ∧
      record = issuanceRecord skCounter now cred expiry w := by
  rcases computeAttributes_cases conf rs requestRevocationSupported attributeList saveIssuanceRecord skCounter now
    cred with ⟨none, -⟩ | ⟨witness, attributes, computed, -, records, -⟩
  · rw [none] at saved
    cases saved
  · rw [records] at saved
    cases witness with
    | none => cases saved
    | some w => exact ⟨w, attributes.expiry, computed, List.mem_singleton.mp saved⟩

end Issuance

/-- For every credential, whatever the revocation storage, `AttributeList` and
`SaveIssuanceRecord` return: an issuance record is handed to `SaveIssuanceRecord` only when the
credential type and the client both support revocation, and it is the credential's: its type,
its revocation key, the counter of the issuing key, the issuance time, and the `E` of a witness
drawn from the latest update of the credential's key. When `computeAttributes` succeeds, the
credential has a witness exactly when both support revocation, its nonrevocation attribute is
that witness's `E`, and the one record saved carries the same `E` and the credential's expiry.
And when the credential passed `validateIssuanceRequest` (is issuable), the key of every record
is not empty. -/
theorem computeAttributes_binds_revocation_record {Sig Pk Acc : Type} (conf : IssuanceConfiguration)
    (rs : RevocationStorage Sig Pk Acc) (requestRevocationSupported : Bool)
    (attributeList : IssuanceCredential → Option Int → Time → Except String AttributeList)
    (saveIssuanceRecord : IssuanceRecord → Except String Unit) (skCounter : Nat) (now : Time)
    (cred : IssuanceCredential) :
    (∀ record ∈ (computeAttributes conf rs requestRevocationSupported attributeList saveIssuanceRecord skCounter
        now cred).2,
      conf.revocationSupported cred.credentialTypeID = true ∧ requestRevocationSupported = true ∧
        ∃ (w : Witness Sig) (expiry : Time) (updates : Nat → Option Sig) (sig : Sig),
          record = ⟨cred.credentialTypeID, skCounter, cred.revocationKey, some w.e, now, expiry⟩ ∧
            rs.latestUpdates cred.credentialTypeID cred.keyCounter = .ok updates ∧
              updates cred.keyCounter = some sig ∧ w.signedAccumulator = some sig) ∧
    (∀ ints witness, (computeAttributes conf rs requestRevocationSupported attributeList saveIssuanceRecord
        skCounter now cred).1 = .ok (ints, witness) →
      witness.isSome = (conf.revocationSupported cred.credentialTypeID && requestRevocationSupported) ∧
        ∃ attributes, attributeList cred (witness.map Witness.e) now = .ok attributes ∧ ints = attributes.ints ∧
          (computeAttributes conf rs requestRevocationSupported attributeList saveIssuanceRecord skCounter now
            cred).2 = (witness.map fun w => ⟨cred.credentialTypeID, skCounter, cred.revocationKey, some w.e, now,
              attributes.expiry⟩).toList) ∧
    ∀ (allowIssuingExpiredCredentials : Bool) (validatedAt : Time),
      cred.Issuable conf allowIssuingExpiredCredentials validatedAt →
      ∀ record ∈ (computeAttributes conf rs requestRevocationSupported attributeList saveIssuanceRecord skCounter
        now cred).2, record.key ≠ "" := by
  refine ⟨fun record saved => ?_, fun ints witness ok => ?_, fun _ _ issuable record saved => ?_⟩
  · obtain ⟨w, expiry, computed, rfl⟩ :=
      computeAttributes_records conf rs _ attributeList saveIssuanceRecord skCounter now saved
    obtain ⟨supported, requested⟩ := computeWitness_supported conf rs _ computed
    obtain ⟨updates, sig, latest, found, accumulator⟩ := (computeWitness_ok conf rs _ computed).2 w rfl
    exact ⟨supported, requested, w, expiry, updates, sig, rfl, latest, found, accumulator⟩
  · obtain ⟨computed, attributes, built, rfl, saved⟩ :=
      computeAttributes_ok conf rs requestRevocationSupported attributeList saveIssuanceRecord skCounter now ok
    exact ⟨(computeWitness_ok conf rs _ computed).1, attributes, built, rfl, saved⟩
  · obtain ⟨w, expiry, computed, rfl⟩ :=
      computeAttributes_records conf rs _ attributeList saveIssuanceRecord skCounter now saved
    exact (issuable.revocation (computeWitness_supported conf rs _ computed).1).1

end IrmaServer
