import IrmaServer.Session.Data
import Mathlib.Data.List.AList

/-!
# Keyshare proofs

`sessionData.getProofP` (`helpers.go`): the proof `P` of the keyshare server of a scheme, which
an issuance needs for the credentials of that scheme. The first call for a scheme parses it from
the JWT the client sent with its commitments and keeps it in the session's `KssProofs`; every
later call returns the kept one and reads no JWT. So in a session the proof of a scheme, once
parsed, never changes, whatever the client sends later, and a failed call changes no kept proof.
The proofs are of any type `P`; the session keeps `gabi.ProofP`s.
-/

namespace IrmaServer

/-- What `jwt.ParseWithClaims`, with the key of the keyshare server of a scheme, makes of a JWT:
its error, or whether the token is valid and its `ProofP` claim, nil when absent. The JWT
library and the keys are not under src/. -/
abbrev ProofPParser (P : Type) := SchemeManagerIdentifier → String → Except String (Bool × Option P)

/-- `sessionData.getProofP` on `KssProofs` (`none` for a nil map), with the `ProofPjwts` of the
client's commitments: the proof or the error, and `KssProofs` afterwards. -/
def getProofP {P : Type} (parse : ProofPParser P) (kssProofs : Option (KssProofs P))
    (proofPjwts : AList fun _ : String => String) (scheme : SchemeManagerIdentifier) :
    Except String (Option P) × KssProofs P :=
  let proofs := kssProofs.getD ∅
  match proofs.lookup scheme with
  | some proof => (.ok proof, proofs)
  | none =>
    match proofPjwts.lookup scheme with
    | none => (.error ("no keyshare proof included for scheme " ++ scheme), proofs)
    | some str =>
      match parse scheme str with
      | .error err => (.error err, proofs)
      | .ok (valid, proof) =>
        if !valid then (.error ("invalid keyshare proof included for scheme " ++ scheme), proofs)
        else (.ok proof, proofs.insert scheme proof)

/-- `getProofP` called on one session for a list of commitments and schemes, in order, as the
session's lock serializes the requests: the result of each call and `KssProofs` at the end. -/
def getProofPRun {P : Type} (parse : ProofPParser P) :
    Option (KssProofs P) → List ((AList fun _ : String => String) × SchemeManagerIdentifier) →
      List (Except String (Option P)) × Option (KssProofs P)
  | kssProofs, [] => ([], kssProofs)
  | kssProofs, (proofPjwts, scheme) :: calls =>
    let call := getProofP parse kssProofs proofPjwts scheme
    let rest := getProofPRun parse (some call.2) calls
    (call.1 :: rest.1, rest.2)

def KssProofs.Keeps {P : Type} (m m' : KssProofs P) : Prop :=
  ∀ scheme proof, m.lookup scheme = some proof → m'.lookup scheme = some proof

theorem KssProofs.Keeps.trans {P : Type} {m₁ m₂ m₃ : KssProofs P} (h₁₂ : m₁.Keeps m₂) (h₂₃ : m₂.Keeps m₃) :
    m₁.Keeps m₃ :=
  fun scheme proof kept => h₂₃ scheme proof (h₁₂ scheme proof kept)

section Call

variable {P : Type} (parse : ProofPParser P) (kssProofs : Option (KssProofs P))
  (proofPjwts : AList fun _ : String => String) (scheme : SchemeManagerIdentifier)

theorem getProofP_cases :
    (∃ proof, (kssProofs.getD ∅).lookup scheme = some proof ∧
        getProofP parse kssProofs proofPjwts scheme = (.ok proof, kssProofs.getD ∅)) ∨
      ((kssProofs.getD ∅).lookup scheme = none ∧ ∃ proof,
        getProofP parse kssProofs proofPjwts scheme = (.ok proof, (kssProofs.getD ∅).insert scheme proof)) ∨
      ∃ err, getProofP parse kssProofs proofPjwts scheme = (.error err, kssProofs.getD ∅) := by
  cases kept : (kssProofs.getD ∅).lookup scheme with
  | some proof => exact .inl ⟨proof, rfl, by simp [getProofP, kept]⟩
  | none =>
    refine .inr ?_
    cases jwt : proofPjwts.lookup scheme with
    | none => exact .inr ⟨"no keyshare proof included for scheme " ++ scheme, by simp [getProofP, kept, jwt]⟩
    | some str =>
      cases parsed : parse scheme str with
      | error err => exact .inr ⟨err, by simp [getProofP, kept, jwt, parsed]⟩
      | ok verdict =>
        obtain ⟨valid, proof⟩ := verdict
        cases valid
        · exact .inr ⟨"invalid keyshare proof included for scheme " ++ scheme,
            by simp [getProofP, kept, jwt, parsed]⟩
        · exact .inl ⟨rfl, proof, by simp [getProofP, kept, jwt, parsed]⟩

theorem getProofP_keeps : (kssProofs.getD ∅).Keeps (getProofP parse kssProofs proofPjwts scheme).2 := by
  intro s proof kept
  rcases getProofP_cases parse kssProofs proofPjwts scheme with ⟨_, _, h⟩ | ⟨absent, _, h⟩ | ⟨_, h⟩ <;>
    rw [h]
  · exact kept
  · have other : s ≠ scheme := by rintro rfl; simp [absent] at kept
    rwa [Finmap.lookup_insert_of_ne _ other]
  · exact kept

theorem getProofP_ok {proof : Option P} (ok : (getProofP parse kssProofs proofPjwts scheme).1 = .ok proof) :
    (getProofP parse kssProofs proofPjwts scheme).2.lookup scheme = some proof := by
  rcases getProofP_cases parse kssProofs proofPjwts scheme with ⟨_, kept, h⟩ | ⟨_, _, h⟩ | ⟨_, h⟩ <;>
    rw [h] at ok ⊢ <;> cases ok
  · exact kept
  · exact Finmap.lookup_insert _

end Call

/-- Along every run of `getProofP` calls on a session, whatever commitments the client sends and
whatever the JWTs parse to: no kept proof ever changes, and every call that returns a proof
returns the one `KssProofs` holds for its scheme at the end. So all calls that succeed for a
scheme return the same proof, the one the first of them parsed. -/
theorem getProofP_keeps_first_proof {P : Type} (parse : ProofPParser P) (kssProofs : Option (KssProofs P))
    (calls : List ((AList fun _ : String => String) × SchemeManagerIdentifier)) :
    (kssProofs.getD ∅).Keeps ((getProofPRun parse kssProofs calls).2.getD ∅) ∧
      ∀ call ∈ calls.zip (getProofPRun parse kssProofs calls).1, ∀ proof, call.2 = .ok proof →
        ((getProofPRun parse kssProofs calls).2.getD ∅).lookup call.1.2 = some proof := by
  induction calls generalizing kssProofs with
  | nil => exact ⟨fun _ _ => id, fun _ mem => by cases mem⟩
  | cons call calls ih =>
    obtain ⟨proofPjwts, scheme⟩ := call
    obtain ⟨keeps, results⟩ := ih (some (getProofP parse kssProofs proofPjwts scheme).2)
    refine ⟨(getProofP_keeps parse kssProofs proofPjwts scheme).trans keeps, fun c mem proof ok => ?_⟩
    rcases List.mem_cons.mp mem with rfl | later
    · exact keeps _ _ (getProofP_ok parse kssProofs proofPjwts scheme ok)
    · exact results c later proof ok

end IrmaServer
