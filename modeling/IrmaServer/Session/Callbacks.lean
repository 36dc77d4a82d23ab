import IrmaServer.Session.Invariants

/-!
# Result callbacks

`setStatus` posts the session result whenever it writes a finished status. Every operation but
`fail` writes one only from a live status, and a finished session stays finished, so along a
run of transitions the result is posted at most once, unless `fail` is applied to a session
that has already finished.
-/

namespace IrmaServer

theorem SessionData.doResultCallback_length (sd : SessionData) : sd.doResultCallback.length ≤ 1 := by
  unfold SessionData.doResultCallback
  split <;> simp

theorem SessionData.setStatus_posted (sd : SessionData) (status : ServerStatus) :
    (sd.setStatus status).2 = [] ∨
      ((sd.setStatus status).2.length ≤ 1 ∧ (sd.setStatus status).1.status.finished = true) := by
  rw [SessionData.setStatus_snd]
  split
  · exact .inr ⟨SessionData.doResultCallback_length _, ‹_›⟩
  · exact .inl rfl

def Transition.failsFinished : Transition → SessionData → Bool
  | .op (.fail _ _), sd => sd.status.finished
  | _, _ => false

def Transition.neverFailsFinished : List Transition → SessionData → Bool
  | [], _ => true
  | t :: ts, sd => !t.failsFinished sd && Transition.neverFailsFinished ts (t.apply sd).1

private theorem posted_of_setStatus (sd₀ : SessionData) (status : ServerStatus) {sd : SessionData}
    {t : Transition} (live : sd.status.finished = false ∨ t.failsFinished sd = true) :
    (sd₀.setStatus status).2 = [] ∨
      ((sd₀.setStatus status).2.length ≤ 1 ∧ (sd₀.setStatus status).1.status.finished = true ∧
        (sd.status.finished = false ∨ t.failsFinished sd = true)) := by
  rcases sd₀.setStatus_posted status with none | ⟨one, done⟩
  · exact .inl none
  · exact .inr ⟨one, done, live⟩

theorem Transition.apply_posted (t : Transition) (sd : SessionData) :
    (t.apply sd).2 = [] ∨
      ((t.apply sd).2.length ≤ 1 ∧ (t.apply sd).1.status.finished = true ∧
        (sd.status.finished = false ∨ t.failsFinished sd = true)) := by
  cases t with
  | checkCache => exact .inl rfl
  | recordResponse => exact .inl rfl
  | op o =>
    cases o with
    | updateFrontendOptions => exact .inl rfl
    | pairingCompleted =>
      refine .inl ?_
      show (sd.pairingCompleted.2).2 = []
      rw [SessionData.pairingCompleted_eq]
      split <;> rfl
    | fail err message =>
      exact posted_of_setStatus _ _ (by cases h : sd.status.finished <;> simp [Transition.failsFinished, h])
    | deleteExpiredCheck now =>
      simp only [Transition.apply, SessionOp.apply, SessionData.deleteExpiredCheck]
      split
      · split
        · rename_i live
          exact posted_of_setStatus (sd.markAlive now) .timeout (.inl (by simpa using live))
        · exact .inl rfl
      · exact .inl rfl
    | clientGetExpiryCheck now =>
      simp only [Transition.apply, SessionOp.apply, SessionData.clientGetExpiryCheck]
      split
      · rename_i expired
        exact posted_of_setStatus (sd.markAlive now) .timeout (.inl (by simp_all))
      · exact .inl rfl
    | clientConnect policy unsupported minClient maxClient clientAuth now =>
      simp only [Transition.apply, SessionOp.apply, SessionData.clientConnect]
      split
      · exact .inl rfl
      · rename_i initialized
        have live : sd.status.finished = false := by
          rw [not_not.mp initialized]
          rfl
        split
        · exact posted_of_setStatus _ _ (.inl live)
        · exact .inl (SessionData.setStatus_snd_of_not_finished (by split <;> rfl))
    | clientResponse valid proofStatus disclosed next rejected now =>
      simp only [Transition.apply, SessionOp.apply, SessionData.clientResponse]
      split
      · exact .inl rfl
      · rename_i connected
        have live : sd.status.finished = false := by
          rw [not_not.mp connected]
          rfl
        split
        · exact posted_of_setStatus _ _ (.inl live)
        · exact posted_of_setStatus _ _ (.inl live)

theorem Transition.finished_stays (t : Transition) {sd : SessionData} (done : sd.status.finished = true) :
    (t.apply sd).1.status.finished = true := by
  rcases (t.follows_machine sd).2 done with ⟨c, cache⟩ | ⟨err, message, failed⟩
  · rw [cache]
    exact done
  · rw [failed]
    rfl

/-- Along every run of transitions over one session value, each applied to what the one before
left, in which `fail` is never applied to a finished session, the result is posted at most once,
and not at all when the session had already finished. The memory store keeps such a value. The
Redis store does not: it never writes back the `TIMEOUT` of `clientGet`'s expiry check, so every
load applies that check to the stored value afresh, and its loads are no such run. -/
theorem result_posted_at_most_once (ts : List Transition) (sd : SessionData)
    (never : Transition.neverFailsFinished ts sd = true) :
    (Transition.run ts sd).2.length ≤ if sd.status.finished then 0 else 1 := by
  induction ts generalizing sd with
  | nil => exact Nat.zero_le _
  | cons t ts ih =>
    simp only [Transition.neverFailsFinished, Bool.and_eq_true, Bool.not_eq_true'] at never
    have rest := ih (t.apply sd).1 never.2
    show ((t.apply sd).2 ++ (Transition.run ts (t.apply sd).1).2).length ≤ _
    rw [List.length_append]
    rcases t.apply_posted sd with none | ⟨one, done, live⟩
    · rw [none, List.length_nil, Nat.zero_add]
      cases finished : sd.status.finished
      · simp only [Bool.false_eq_true, if_false]
        split at rest <;> omega
      · simpa [t.finished_stays finished] using rest
    · have live : sd.status.finished = false := by simpa [never.1] using live
      simp only [done, live, if_true, Bool.false_eq_true, if_false] at rest ⊢
      omega

theorem result_posted_at_most_once_connect :
    Transition.neverFailsFinished (connectAndRespond ⟨"", 0, ""⟩) legacyCallbackSession = true ∧
      (Transition.run (connectAndRespond ⟨"", 0, ""⟩) legacyCallbackSession).2.length ≤
        if legacyCallbackSession.status.finished then 0 else 1 :=
  ⟨rfl, result_posted_at_most_once _ _ rfl⟩

end IrmaServer
