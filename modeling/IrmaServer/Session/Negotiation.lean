import IrmaServer.Session.Invariants
import Mathlib.Data.Prod.Lex
import Mathlib.Order.Interval.Set.Basic
import Mathlib.Order.Bounds.Basic

/-!
# Protocol version negotiation

`chooseProtocolVersion` against the order that `Below` and `Above` decide, the lexicographic
order on `(Major, Minor)`. The chain of overriding minima computes the largest of the minima the
session's features require, and the three-way failure test decides whether the client's window
meets the server's: the negotiated version is the greatest version in both.
-/

namespace IrmaServer

/-! ## The order of versions -/

/-- Versions ordered by `(Major, Minor)`, lexicographically. -/
instance : LinearOrder ProtocolVersion :=
  LinearOrder.lift' (fun v => toLex (v.major, v.minor)) fun v w h => by
    cases v; cases w; simp_all

namespace ProtocolVersion

theorem lt_iff {v w : ProtocolVersion} :
    v < w ↔ v.major < w.major ∨ v.major = w.major ∧ v.minor < w.minor :=
  Prod.Lex.lt_iff _ _

@[simp] theorem belowVersion_iff {v w : ProtocolVersion} : v.belowVersion w = true ↔ v < w := by
  unfold belowVersion below
  rw [lt_iff]
  split <;> simp [*]

@[simp] theorem aboveVersion_iff {v w : ProtocolVersion} : v.aboveVersion w = true ↔ w < v := by
  unfold aboveVersion above
  rw [lt_iff]
  split
  · simp [*]
  · simp only [Bool.and_eq_true, beq_iff_eq, decide_eq_true_eq]
    omega

end ProtocolVersion

/-! ## The session minimum -/

namespace SessionData

/-- The session minimum as the negotiation is documented: `minSecureProtocolVersion`, or, when
insecure versions are accepted, the largest of 2.4 and the versions the session's features
require: 2.5 without legacy compatibility, 2.6 for non-revocation proofs, 2.7 for a chained
session. -/
def requiredProtocolVersion (sd : SessionData) (policy : VersionPolicy) : ProtocolVersion :=
  if policy.acceptInsecureProtocolVersions then
    minProtocolVersion ⊔ (if sd.legacyCompatible then minProtocolVersion else newVersion 2 5) ⊔
      (if 0 < sd.rrequest.request.base.revocation.length then newVersion 2 6 else minProtocolVersion) ⊔
      (if sd.rrequest.base.nextSession.isSome then newVersion 2 7 else minProtocolVersion)
  else policy.minSecureProtocolVersion

theorem minSessionProtocolVersion_eq (sd : SessionData) (policy : VersionPolicy) :
    sd.minSessionProtocolVersion policy = sd.requiredProtocolVersion policy := by
  unfold minSessionProtocolVersion requiredProtocolVersion
  split
  · cases sd.legacyCompatible <;> cases sd.rrequest.base.nextSession.isSome <;>
      by_cases revocation : 0 < sd.rrequest.request.base.revocation.length <;>
      simp only [revocation, Bool.false_eq_true, Bool.not_false, Bool.not_true, ↓reduceIte] <;> decide
  · rfl

theorem minSessionProtocolVersion_le {sd : SessionData} {policy : VersionPolicy}
    (secure : policy.minSecureProtocolVersion ≤ maxProtocolVersion) :
    sd.minSessionProtocolVersion policy ≤ maxProtocolVersion := by
  unfold minSessionProtocolVersion
  split_ifs <;> first | exact secure | decide

theorem chooseProtocolVersion_ok_iff {sd : SessionData} {policy : VersionPolicy}
    {minClient maxClient w : ProtocolVersion} :
    sd.chooseProtocolVersion policy minClient maxClient = .ok w ↔
      (minClient ≤ maxProtocolVersion ∧ sd.minSessionProtocolVersion policy ≤ maxClient ∧
        minClient ≤ maxClient) ∧ w = min maxClient maxProtocolVersion := by
  have refused : ((maxProtocolVersion < minClient ∨ maxClient < sd.minSessionProtocolVersion policy) ∨
      maxClient < minClient) ↔ ¬(minClient ≤ maxProtocolVersion ∧
        sd.minSessionProtocolVersion policy ≤ maxClient ∧ minClient ≤ maxClient) := by
    simp only [not_and_or, not_le, or_assoc]
  unfold chooseProtocolVersion
  simp only [Bool.or_eq_true, ProtocolVersion.aboveVersion_iff, ProtocolVersion.belowVersion_iff,
    refused]
  split_ifs with accepted capped
  · rw [min_eq_right capped.le]
    simp [accepted, eq_comm]
  · rw [min_eq_left (not_lt.1 capped)]
    simp [accepted, eq_comm]
  · simp [accepted]

end SessionData

/-- For every session and every pair of client versions, negotiation succeeds exactly when some
version lies in both the client's window `[minClient, maxClient]` and the server's window
`[m, 2.8]`, `m` the session minimum; it then returns the greatest such version,
`min maxClient 2.8`. -/
theorem chooseProtocolVersion_greatest_common (sd : SessionData) (policy : VersionPolicy)
    (secure : policy.minSecureProtocolVersion ≤ maxProtocolVersion)
    (minClient maxClient : ProtocolVersion) :
    let common := Set.Icc minClient maxClient ∩
      Set.Icc (sd.requiredProtocolVersion policy) maxProtocolVersion
    ((∃ w, sd.chooseProtocolVersion policy minClient maxClient = .ok w) ↔ common.Nonempty) ∧
      ∀ w, sd.chooseProtocolVersion policy minClient maxClient = .ok w →
        IsGreatest common w ∧ w = min maxClient maxProtocolVersion := by
  intro common
  have bounded := @SessionData.minSessionProtocolVersion_le sd policy secure
  rw [SessionData.minSessionProtocolVersion_eq] at bounded
  have window : common = Set.Icc (minClient ⊔ sd.requiredProtocolVersion policy)
      (maxClient ⊓ maxProtocolVersion) := Set.Icc_inter_Icc
  have meets : minClient ⊔ sd.requiredProtocolVersion policy ≤ maxClient ⊓ maxProtocolVersion ↔
      minClient ≤ maxProtocolVersion ∧ sd.requiredProtocolVersion policy ≤ maxClient ∧
        minClient ≤ maxClient := by
    simp only [sup_le_iff, le_inf_iff, bounded, and_true]
    tauto
  simp only [SessionData.chooseProtocolVersion_ok_iff, SessionData.minSessionProtocolVersion_eq]
  refine ⟨?_, ?_⟩
  · rw [window, Set.nonempty_Icc, meets]
    exact ⟨fun ⟨_, accepted, _⟩ => accepted, fun accepted => ⟨_, accepted, rfl⟩⟩
  · rintro w ⟨accepted, rfl⟩
    rw [window]
    exact ⟨isGreatest_Icc (meets.2 accepted), rfl⟩

theorem chooseProtocolVersion_greatest_common_secure :
    newVersion 2 5 ≤ maxProtocolVersion ∧
      let common := Set.Icc (newVersion 2 4) (newVersion 2 9) ∩
        Set.Icc (legacyCallbackSession.requiredProtocolVersion ⟨false, newVersion 2 5⟩) maxProtocolVersion
      ((∃ w, legacyCallbackSession.chooseProtocolVersion ⟨false, newVersion 2 5⟩ (newVersion 2 4)
          (newVersion 2 9) = .ok w) ↔ common.Nonempty) ∧
        ∀ w, legacyCallbackSession.chooseProtocolVersion ⟨false, newVersion 2 5⟩ (newVersion 2 4)
            (newVersion 2 9) = .ok w →
          IsGreatest common w ∧ w = min (newVersion 2 9) maxProtocolVersion :=
  ⟨by decide, chooseProtocolVersion_greatest_common _ _ (by decide) _ _⟩

end IrmaServer
