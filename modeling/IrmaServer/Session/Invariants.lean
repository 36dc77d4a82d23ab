import IrmaServer.Session.Machine

/-!
# Invariants of a session

From `OpEffect`: the identity of a session never changes, a live session only moves along
the edges of §4.1, a finished one is left alone by everything but `fail`, the pairing
options stay well formed, and `Result` keeps describing its session.
-/

namespace IrmaServer

theorem ServerStatus.edge_of_finished {s : ServerStatus} (t : ServerStatus) (h : s.finished = true) :
    s.edge t = false := by
  cases s <;> cases t <;> simp_all [edge, finished]

theorem ServerStatus.edge_ne_initialized {s t : ServerStatus} (h : s.edge t = true) :
    t ≠ .initialized := by
  rintro rfl
  cases s <;> simp_all [edge, finished]

theorem ServerStatus.edge_cancelled {s : ServerStatus} (h : s.finished = false) :
    s.edge .cancelled = true := by
  cases s <;> simp_all [edge, finished]

namespace OpEffect

variable {sd sd' : SessionData}

theorem fixed (effect : OpEffect sd sd') :
    sd'.requestorToken = sd.requestorToken ∧ sd'.clientToken = sd.clientToken ∧
      sd'.action = sd.action ∧ sd'.rrequest = sd.rrequest := by
  cases effect <;> exact ⟨rfl, rfl, rfl, rfl⟩

theorem responseCache_eq (effect : OpEffect sd sd') : sd'.responseCache = sd.responseCache := by
  cases effect <;> rfl

theorem options_eq (effect : OpEffect sd sd') (h : sd.status ≠ .initialized) :
    sd'.options = sd.options := by
  cases effect with
  | options o hs _ => exact absurd hs h
  | _ => rfl

theorem status_ne_initialized (effect : OpEffect sd sd') (h : sd.status ≠ .initialized) :
    sd'.status ≠ .initialized := by
  cases effect with
  | advance status _ _ _ _ _ hedge => exact ServerStatus.edge_ne_initialized hedge
  | fail => nofun
  | _ => exact h

theorem live_status (effect : OpEffect sd sd') (live : sd.status.finished = false) :
    sd'.status = sd.status ∨ sd.status.edge sd'.status = true := by
  cases effect with
  | advance status _ _ _ _ _ hedge => exact .inr hedge
  | fail => exact .inr (ServerStatus.edge_cancelled live)
  | _ => exact .inl rfl

theorem finished_frozen (effect : OpEffect sd sd') (done : sd.status.finished = true) :
    sd' = sd ∨ ∃ err message, sd' = (sd.fail err message).2.1 := by
  cases effect with
  | unchanged => exact .inl rfl
  | options o hs _ => simp [hs, ServerStatus.finished] at done
  | advance status _ _ _ _ _ hedge => simp [ServerStatus.edge_of_finished status done] at hedge
  | fail lastActive err message hlast =>
    rcases hlast with rfl | hc
    · exact .inr ⟨err, message, rfl⟩
    · simp [hc, ServerStatus.finished] at done

end OpEffect

/-- Every transition keeps a live session's status or moves it along an edge of §4.1; a
finished session is changed by nothing but its response cache, except by `fail`. -/
theorem Transition.follows_machine (t : Transition) (sd : SessionData) :
    (sd.status.finished = false →
      (t.apply sd).1.status = sd.status ∨ sd.status.edge (t.apply sd).1.status = true) ∧
    (sd.status.finished = true →
      (∃ c, (t.apply sd).1 = { sd with responseCache := c }) ∨
        ∃ err message, (t.apply sd).1 = (sd.fail err message).2.1) := by
  rcases t.apply_effect sd with effect | ⟨c, cache⟩
  · refine ⟨effect.live_status, fun done => ?_⟩
    rcases effect.finished_frozen done with unchanged | failed
    · exact .inl ⟨sd.responseCache, unchanged⟩
    · exact .inr failed
  · rw [cache]
    exact ⟨fun _ => .inl rfl, fun _ => .inl ⟨c, rfl⟩⟩

/-- A disclosure request of a legacy requestor that asks for a result callback. -/
def legacyCallbackRequest : RequestorRequest :=
  { base := { resultJwtValidity := 120, clientTimeout := 0,
              callbackURL := "https://requestor.example/callback", nextSession := none },
    request := { base := { context := none, nonce := none, revocation := [], clientReturnURL := "",
                           augmentReturnURL := false, host := "", legacy := true },
                 disclose := [], type := .disclosing } }

def legacyCallbackSession : SessionData :=
  newSession false ⟨"clientToken", "requestorToken", "frontendAuth", 7⟩ 0 actionDisclosing
    legacyCallbackRequest [] ""

def clientConnects (err : ServerError) : Transition :=
  .op (.clientConnect ⟨true, newVersion 2 5⟩ err (newVersion 2 4) (newVersion 2 8) "clientAuth" 1)

def clientResponds (err : ServerError) : Transition :=
  .op (.clientResponse true "VALID" [] none err 2)

def connectAndRespond (err : ServerError) : List Transition := [clientConnects err, clientResponds err]

/-- `fail` on a session that is already `DONE` moves it to `CANCELLED`, which is no edge of
§4.1: `fail` has no `Finished()` guard. -/
theorem fail_reopens_done_session (err : ServerError) (message : String) :
    let done := (Transition.run (connectAndRespond err) legacyCallbackSession).1
    let failed := ((Transition.op (.fail err message)).apply done).1
    Reachable failed ∧ done.status = .done ∧ failed.status = .cancelled ∧
      done.status.edge failed.status = false :=
  ⟨((Reachable.newSession ..).run _).step _, rfl, rfl, rfl⟩

/-! ## Pairing options -/

structure PairingInvariant (sd : SessionData) : Prop where
  method : sd.options.pairingMethod = pairingMethodNone ∨ sd.options.pairingMethod = pairingMethodPin
  code : sd.options.pairingCode ≠ "" ↔ sd.options.pairingMethod = pairingMethodPin
  pairing : sd.status = .pairing → sd.options.pairingMethod = pairingMethodPin

theorem pairingInvariant_newSession (augment : Bool) (draws : SessionDraws) (now : Time)
    (action : Action) (request : RequestorRequest) (disclosed : AttributeConDisCon)
    (frontendAuth : FrontendAuthorization) :
    PairingInvariant (newSession augment draws now action request disclosed frontendAuth) :=
  ⟨.inl rfl, by simp [newSession], nofun⟩

theorem PairingInvariant.opEffect {sd sd' : SessionData} (inv : PairingInvariant sd)
    (effect : OpEffect sd sd') : PairingInvariant sd' := by
  cases effect with
  | unchanged => exact inv
  | options o hs ho =>
    rcases ho with rfl | ⟨seed, rfl⟩
    · exact ⟨.inl rfl, by simp, by simp [hs]⟩
    · exact ⟨.inr rfl, by simp [newPairingCode_ne_empty], fun _ => rfl⟩
  | advance status _ _ _ _ _ _ hpairing =>
    refine ⟨inv.method, inv.code, fun h => ?_⟩
    have : status = .pairing := by simpa using h
    exact inv.method.resolve_left (hpairing this)
  | fail => exact ⟨inv.method, inv.code, nofun⟩

theorem PairingInvariant.step {sd : SessionData} (inv : PairingInvariant sd) (t : Transition) :
    PairingInvariant (t.apply sd).1 := by
  rcases t.apply_effect sd with effect | ⟨c, h⟩
  · exact inv.opEffect effect
  · rw [h]
    exact ⟨inv.method, inv.code, inv.pairing⟩

theorem pairingInvariant_reachable {sd : SessionData} (reachable : Reachable sd) :
    PairingInvariant sd := by
  induction reachable with
  | newSession => exact pairingInvariant_newSession ..
  | step t _ ih => exact ih.step t

theorem Transition.options_eq {sd : SessionData} (t : Transition) (h : sd.status ≠ .initialized) :
    (t.apply sd).1.options = sd.options ∧ (t.apply sd).1.status ≠ .initialized := by
  rcases t.apply_effect sd with effect | ⟨c, hc⟩
  · exact ⟨effect.options_eq h, effect.status_ne_initialized h⟩
  · rw [hc]
    exact ⟨rfl, h⟩

theorem options_run_of_ne_initialized {sd : SessionData} (h : sd.status ≠ .initialized)
    (ts : List Transition) : (Transition.run ts sd).1.options = sd.options := by
  induction ts generalizing sd with
  | nil => rfl
  | cons t ts ih =>
    obtain ⟨options, status⟩ := t.options_eq h
    simpa [options] using ih status

/-- The pairing options of every reachable session are well formed, a session in `PAIRING`
uses `pin`, the options are fixed once the session has left `INITIALIZED`,
`updateFrontendOptions` refuses (changing nothing) outside `INITIALIZED` and for an unknown
method, and the client request carries the session request only without pairing. -/
theorem pairing_options_invariant :
    (∀ sd, Reachable sd → PairingInvariant sd) ∧
    (∀ sd, sd.status ≠ .initialized → ∀ ts, (Transition.run ts sd).1.options = sd.options) ∧
    (∀ (sd : SessionData) request seed,
      sd.status ≠ .initialized ∨ request.pairingMethod ∉ [pairingMethodNone, pairingMethodPin, ""] →
        (sd.updateFrontendOptions request seed).1.isOk = false ∧
          (sd.updateFrontendOptions request seed).2 = sd) ∧
    (∀ sd : SessionData, sd.options.pairingMethod = pairingMethodPin → sd.getClientRequest.request = none) :=
  ⟨fun _ reachable => pairingInvariant_reachable reachable,
   fun _ h ts => options_run_of_ne_initialized h ts,
   fun _ _ _ h => SessionData.updateFrontendOptions_rejects h,
   fun sd h => by simp [SessionData.getClientRequest, h]⟩

/-! ## The session result -/

def ResultAgrees (sd : SessionData) : Prop :=
  ∃ r, sd.result = some r ∧ r.token = sd.requestorToken ∧ r.type = sd.action ∧ r.status = sd.status

theorem resultAgrees_newSession (augment : Bool) (draws : SessionDraws) (now : Time)
    (action : Action) (request : RequestorRequest) (disclosed : AttributeConDisCon)
    (frontendAuth : FrontendAuthorization) :
    ResultAgrees (newSession augment draws now action request disclosed frontendAuth) :=
  ⟨_, rfl, rfl, rfl, rfl⟩

theorem ResultAgrees.opEffect {sd sd' : SessionData} (agrees : ResultAgrees sd)
    (effect : OpEffect sd sd') : ResultAgrees sd' := by
  obtain ⟨r, hr, htoken, htype, hstatus⟩ := agrees
  cases effect with
  | unchanged => exact ⟨r, hr, htoken, htype, hstatus⟩
  | options => exact ⟨r, hr, htoken, htype, hstatus⟩
  | advance status _ _ _ _ result _ _ hkey =>
    rw [hr] at hkey
    obtain ⟨r', rfl, hkey'⟩ := Option.map_eq_some'.mp hkey
    simp only [SessionResult.key, Prod.mk.injEq] at hkey'
    exact ⟨_, rfl, hkey'.1.trans htoken, hkey'.2.1.trans htype, rfl⟩
  | fail => exact ⟨_, rfl, rfl, rfl, rfl⟩

theorem resultAgrees_reachable {sd : SessionData} (reachable : Reachable sd) : ResultAgrees sd := by
  induction reachable with
  | newSession => exact resultAgrees_newSession ..
  | step t _ ih =>
    rcases t.apply_effect _ with effect | ⟨c, h⟩
    · exact ih.opEffect effect
    · rw [h]
      exact ih

/-- `fail` rebuilds `Result` without `LegacySession`: after a failure the result of a legacy
session no longer says so. -/
theorem fail_drops_legacySession (err : ServerError) (message : String) :
    let failed := ((Transition.op (.fail err message)).apply legacyCallbackSession).1
    Reachable failed ∧ failed.rrequest.request.base.legacy = true ∧
      failed.result.map SessionResult.legacySession = some false :=
  ⟨(Reachable.newSession ..).step _, rfl, rfl⟩

end IrmaServer
