import IrmaServer.Session.Lifecycle

/-!
# The session state machine

The edges of the machine of spec §4.1, and what one operation can do to a session
(`OpEffect`): nothing, set the frontend options while `INITIALIZED`, move along an edge
through `setStatus`, or fail. Every later invariant is proved from this one inversion.
-/

namespace IrmaServer

/-- The edges of the session state machine of spec §4.1. -/
def ServerStatus.edge : ServerStatus → ServerStatus → Bool
  | .initialized, .pairing => true
  | .initialized, .connected => true
  | .pairing, .connected => true
  | s, t => !s.finished && t.finished

def SessionResult.key (r : SessionResult) : RequestorToken × Action × Bool :=
  (r.token, r.type, r.legacySession)

inductive OpEffect (sd : SessionData) : SessionData → Prop
  | unchanged : OpEffect sd sd
  | options (o : SessionOptions) : sd.status = .initialized →
      (o = ⟨pairingMethodNone, ""⟩ ∨ ∃ seed, o = ⟨pairingMethodPin, newPairingCode seed⟩) →
      OpEffect sd { sd with options := o }
  | advance (status : ServerStatus) (lastActive : Time) (version : Option ProtocolVersion)
      (clientAuth : ClientAuthorization) (next : Option Qr) (result : Option SessionResult) :
      sd.status.edge status = true →
      (status = .pairing → sd.options.pairingMethod ≠ pairingMethodNone) →
      result.map SessionResult.key = sd.result.map SessionResult.key →
      OpEffect sd ({ sd with lastActive := lastActive, version := version,
                             clientAuth := clientAuth, next := next, result := result }.setStatus status).1
  | fail (lastActive : Time) (err : ServerError) (message : String) :
      lastActive = sd.lastActive ∨ sd.status = .connected →
      OpEffect sd ({ sd with lastActive := lastActive }.fail err message).2.1

namespace SessionOp

private theorem expiry_effect {sd : SessionData} (now : Time) (live : sd.status.finished = false) :
    OpEffect sd ((sd.markAlive now).setStatus .timeout).1 :=
  .advance .timeout now sd.version sd.clientAuth sd.next sd.result
    (by cases h : sd.status <;> simp_all [ServerStatus.edge, ServerStatus.finished])
    (fun h => by cases h) rfl

theorem apply_effect (o : SessionOp) (sd : SessionData) : OpEffect sd (o.apply sd).1 := by
  cases o with
  | updateFrontendOptions request seed =>
    rcases SessionData.updateFrontendOptions_cases sd request seed with h | ⟨hs, ⟨hm, h⟩ | ⟨hm, h⟩⟩
    · simpa [apply, h] using OpEffect.unchanged
    · simpa [apply, h, hm] using OpEffect.options _ hs (.inl rfl)
    · simpa [apply, h, hm] using OpEffect.options _ hs (.inr ⟨seed, rfl⟩)
  | pairingCompleted =>
    simp only [apply, SessionData.pairingCompleted_eq]
    split
    · exact .advance .connected sd.lastActive sd.version sd.clientAuth sd.next sd.result
        (by simp_all [ServerStatus.edge]) (fun h => by cases h) rfl
    · exact .unchanged
  | fail err message => exact .fail sd.lastActive err message (.inl rfl)
  | deleteExpiredCheck now =>
    simp only [apply, SessionData.deleteExpiredCheck]
    split
    · split
      · exact expiry_effect now (by simp_all)
      · exact .unchanged
    · exact .unchanged
  | clientGetExpiryCheck now =>
    simp only [apply, SessionData.clientGetExpiryCheck]
    split
    · exact expiry_effect now (by simp_all)
    · exact .unchanged
  | clientConnect policy unsupported minClient maxClient clientAuth now =>
    simp only [apply, SessionData.clientConnect]
    split
    · exact .unchanged
    · rename_i hs
      split
      · exact .fail sd.lastActive unsupported _ (.inl rfl)
      · rename_i version _
        refine .advance _ now (some version) clientAuth sd.next sd.result ?_ ?_ rfl
        · split <;> simp_all [ServerStatus.edge]
        · split <;> simp_all
  | clientResponse valid proofStatus disclosed next rejected now =>
    simp only [apply, SessionData.clientResponse]
    split
    · exact .unchanged
    · rename_i hs
      split
      · refine .advance .done now sd.version sd.clientAuth next _ ?_ (fun h => by cases h) ?_
        · simp_all [ServerStatus.edge, ServerStatus.finished]
        · cases sd.result <;> rfl
      · exact .fail now rejected "" (.inr (not_not.mp hs))

end SessionOp

theorem Transition.apply_effect (t : Transition) (sd : SessionData) :
    OpEffect sd (t.apply sd).1 ∨ ∃ c, (t.apply sd).1 = { sd with responseCache := c } := by
  cases t with
  | op o => exact .inl (o.apply_effect sd)
  | checkCache sha256 endpoint message now =>
    simp only [apply, SessionData.checkCache]
    split
    · exact .inl .unchanged
    · exact .inr ⟨_, rfl⟩
  | recordResponse endpoint message response => exact .inr ⟨_, rfl⟩

end IrmaServer
