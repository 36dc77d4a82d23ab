import IrmaServer.Middleware.Chain
import IrmaServer.Store.Retention

/-!
# The server on the memory store

The whole server on the memory store, as the code runs it. `newSession` adds a session under
fresh tokens at the current time. Client and frontend requests go through `sessionMiddleware`,
`cacheMiddleware` and `pairingMiddleware` or `frontendMiddleware` to handlers that change the
session only by the session operations. The store transactions of §4.2 of the spec that no
middleware under src/ wraps, such as the requestor's, run session operations under the
session's lock. The clock moves forward, and the sweep task takes its snapshot, checks
sessions one at a time and runs its deletion block, interleaved with all of the above.

Every step of the server is a run of steps of the sweep model of `Store.Retention`, so what
holds of every state that model reaches holds of the server's. Every session the server stores
is one the session operations reach from `newSession`, so what holds of those sessions holds of
each stored one.
-/

namespace IrmaServer

theorem SweepStep.transactions {w : SweepState} {p : Ptr} {sd : SessionData}
    (stored : w.store.heap p = some sd) (ts : List Transition) :
    Relation.ReflTransGen SweepStep w { w with store := w.store.setSession p (Transition.run ts sd).1 } := by
  induction ts generalizing w sd with
  | nil =>
    rw [Transition.run_nil, MemorySessionStore.setSession_of_stored stored]
  | cons t ts ih =>
    have rest := ih (w := { w with store := w.store.setSession p (t.apply sd).1 }) (Function.update_same _ _ _)
    rw [MemorySessionStore.setSession_setSession] at rest
    exact .head (.transaction t stored) rest

def MemorySessionStore.SessionsReachable (s : MemorySessionStore) : Prop :=
  ∀ p sd, s.heap p = some sd → Reachable sd

namespace MemorySessionStore.SessionsReachable

variable {s : MemorySessionStore}

theorem setSession (all : s.SessionsReachable) {p : Ptr} {sd : SessionData} (reachable : Reachable sd) :
    (s.setSession p sd).SessionsReachable := by
  intro q sq stored
  by_cases same : q = p
  · subst same
    obtain rfl : sd = sq := by simpa using stored
    exact reachable
  · exact all q sq (by simpa [same] using stored)

theorem run (all : s.SessionsReachable) {p : Ptr} {sd : SessionData} (stored : s.heap p = some sd)
    (ts : List Transition) : (s.setSession p (Transition.run ts sd).1).SessionsReachable :=
  all.setSession ((all p sd stored).run ts)

end MemorySessionStore.SessionsReachable

section Server

variable (errors : ErrorTable) (sessionTokenRegex : String → Bool) (sha256 : Bytes → Bytes)

/-- The steps of the server on the memory store, for its error table, its token check and its
digest. A request is handled whatever time it carries, and its handler may run any session
operations: those not under src/ are taken as runs of the spec's transitions. -/
inductive ServerStep : SweepState → SweepState → Prop
  | tick {w : SweepState} {later : Time} : w.now ≤ later → ServerStep w { w with now := later }
  | snapshot {w : SweepState} : w.phase = .idle → ServerStep w w.snapshot
  | check {w w' : SweepState} : w.check = some w' → ServerStep w w'
  | delete {w w' : SweepState} : w.delete = some w' → ServerStep w w'
  | newSession {w : SweepState} {p : Ptr} (augment : Bool) (draws : SessionDraws) (action : Action)
      (request : RequestorRequest) (disclosed : AttributeConDisCon) (frontendAuth : FrontendAuthorization) :
      w.store.heap p = none → draws.requestorToken ∉ w.store.requestor → draws.clientToken ∉ w.store.client →
      ServerStep w { w with store := ((w.store.setSession p
        (newSession augment draws w.now action request disclosed frontendAuth)).add p
          (newSession augment draws w.now action request disclosed frontendAuth)) }
  | pairingRequest {w : SweepState} (handler : Handler) (r : Request) : ActsByTransitions handler →
      ServerStep w { w with store := (pairingEndpoint errors sessionTokenRegex sha256 handler r w.store).2 }
  | frontendRequest {w : SweepState} (handler : Handler) (r : Request) : ActsByTransitions handler →
      ServerStep w { w with store := (frontendEndpoint errors sessionTokenRegex sha256 handler r w.store).2 }
  | transaction {w : SweepState} {p : Ptr} {sd : SessionData} (ts : List Transition) :
      w.store.heap p = some sd → ServerStep w { w with store := w.store.setSession p (Transition.run ts sd).1 }

inductive ServerReachable : SweepState → Prop
  | initial (start : Time) : ServerReachable (.initial start)
  | step {w w' : SweepState} : ServerReachable w → ServerStep errors sessionTokenRegex sha256 w w' →
      ServerReachable w'

variable {errors sessionTokenRegex sha256}

theorem sessionMiddleware_sweepSteps {next : Handler} (acts : ActsByTransitions next) (r : Request)
    (w : SweepState) :
    Relation.ReflTransGen SweepStep w
      { w with store := (sessionMiddleware errors sessionTokenRegex next r w.store).2 } := by
  rcases sessionMiddleware_cases acts sessionTokenRegex r w.store with same | ⟨p, sd, ts, -, stored, written⟩
  · rw [same]
  · rw [written]
    exact SweepStep.transactions stored ts

theorem MemorySessionStore.SessionsReachable.sessionMiddleware {s : MemorySessionStore}
    (all : s.SessionsReachable) {next : Handler} (acts : ActsByTransitions next) (r : Request) :
    (IrmaServer.sessionMiddleware errors sessionTokenRegex next r s).2.SessionsReachable := by
  rcases sessionMiddleware_cases acts sessionTokenRegex r s with same | ⟨p, sd, ts, -, stored, written⟩
  · rwa [same]
  · rw [written]
    exact all.run stored ts

theorem ServerStep.sweepSteps {w w' : SweepState} (step : ServerStep errors sessionTokenRegex sha256 w w') :
    Relation.ReflTransGen SweepStep w w' := by
  cases step with
  | tick before => exact .single (.tick before)
  | snapshot idle => exact .single (.snapshot idle)
  | check h => exact .single (.check h)
  | delete h => exact .single (.delete h)
  | newSession _ _ _ _ _ _ fresh freshR freshC => exact .single (.add fresh freshR freshC)
  | pairingRequest _ r acts => exact sessionMiddleware_sweepSteps (acts.pairingMiddleware.cacheMiddleware sha256) r w
  | frontendRequest _ r acts =>
    exact sessionMiddleware_sweepSteps (acts.frontendMiddleware.cacheMiddleware sha256) r w
  | transaction ts stored => exact SweepStep.transactions stored ts

theorem ServerStep.sessionsReachable {w w' : SweepState} (step : ServerStep errors sessionTokenRegex sha256 w w')
    (all : w.store.SessionsReachable) : w'.store.SessionsReachable := by
  cases step with
  | tick _ | snapshot _ => exact all
  | check h =>
    obtain ⟨_, p, _, _, _, ⟨_, rfl⟩ | ⟨sd, stored, rfl⟩⟩ := SweepState.check_cases h
    · exact all
    · exact all.setSession ((all p sd stored).step (.op (.deleteExpiredCheck w.now)))
  | delete h =>
    obtain ⟨_, store, _, deleted, rfl⟩ := SweepState.delete_cases h
    exact fun p sd stored => all p sd ((MemorySessionStore.deleteTokens_sub deleted).1 ▸ stored)
  | newSession => exact all.setSession (.newSession ..)
  | pairingRequest _ r acts => exact all.sessionMiddleware (acts.pairingMiddleware.cacheMiddleware sha256) r
  | frontendRequest _ r acts => exact all.sessionMiddleware (acts.frontendMiddleware.cacheMiddleware sha256) r
  | transaction ts stored => exact all.run stored ts

theorem ServerReachable.sweepReachable {w : SweepState}
    (reachable : ServerReachable errors sessionTokenRegex sha256 w) : SweepReachable w := by
  induction reachable with
  | initial start => exact .initial start
  | step _ step ih => exact ih.run step.sweepSteps

theorem ServerReachable.sessionsReachable {w : SweepState}
    (reachable : ServerReachable errors sessionTokenRegex sha256 w) : w.store.SessionsReachable := by
  induction reachable with
  | initial start => exact fun _ _ stored => nomatch stored
  | step _ step ih => exact step.sessionsReachable ih

/-- In every state the server on the memory store reaches, whatever the interleaving of new
sessions, endpoint requests, transactions, the clock and the sweep task: every stored session is
one the session operations reach from `newSession`, so its `Result` is set and names it (and
`setStatus` and the result copy of `sessionMiddleware` never dereference nil) and its pairing
options are well formed; every live session is indexed under both its tokens; and the deletion
block of a finished pass finds every token it deletes. -/
theorem memory_server_invariant {w : SweepState} (reachable : ServerReachable errors sessionTokenRegex sha256 w) :
    (∀ p sd, w.store.heap p = some sd → Reachable sd ∧ ResultAgrees sd ∧ PairingInvariant sd) ∧
    (∀ p sd, w.store.heap p = some sd → sd.status.finished = false →
      w.store.get sd.requestorToken = some p ∧ w.store.clientGet sd.clientToken = some p) ∧
    ∀ expired, w.phase = .checking [] expired → ∃ w', w.delete = some w' := by
  have inv := sweepInvariant_reachable reachable.sweepReachable
  refine ⟨fun p sd stored => ?_, fun p sd stored live => inv.retained p sd stored (.inl live),
    fun expired phase => ?_⟩
  · have sessionReach := reachable.sessionsReachable p sd stored
    exact ⟨sessionReach, resultAgrees_reachable sessionReach, pairingInvariant_reachable sessionReach⟩
  · obtain ⟨store, deleted, -⟩ := inv.deleteTokens_ok phase
    exact ⟨{ w with store := store, phase := .idle }, by simp [SweepState.delete, phase, deleted]⟩

/-! ## Deleted sessions stay unknown -/

theorem MemorySessionStore.clientGet_add_of_ne {s : MemorySessionStore} {p : Ptr} {sd : SessionData}
    {c : ClientToken} (other : c ≠ sd.clientToken) : (s.add p sd).clientGet c = s.clientGet c :=
  AList.lookup_insert_ne other

theorem sessionMiddleware_of_clientGet_none {s : MemorySessionStore} {token : ClientToken}
    (gone : s.clientGet token = none) (next : Handler) (r : Request) (named : r.clientToken = token)
    (valid : sessionTokenRegex token = true) :
    sessionMiddleware errors sessionTokenRegex next r s = (writeError errors.sessionUnknown "", s) :=
  (sessionMiddleware_refusals (r := r)).2.1 (named ▸ valid) (named ▸ gone)

theorem sessionMiddleware_clientGet {next : Handler} (acts : ActsByTransitions next) (r : Request)
    (s : MemorySessionStore) (c : ClientToken) :
    (sessionMiddleware errors sessionTokenRegex next r s).2.clientGet c = s.clientGet c := by
  rcases sessionMiddleware_cases acts sessionTokenRegex r s with same | ⟨_, _, _, _, _, written⟩
  · rw [same]
  · rw [written]
    rfl

theorem ServerStep.clientGet_none {w w' : SweepState} (step : ServerStep errors sessionTokenRegex sha256 w w')
    {token : ClientToken} (gone : w.store.clientGet token = none) :
    w'.store.clientGet token = none ∨ ∃ p augment draws action request disclosed frontendAuth,
      draws.clientToken = token ∧ w'.store.clientGet token = some p ∧
        w'.store.heap p = some (IrmaServer.newSession augment draws w.now action request disclosed frontendAuth) := by
  cases step with
  | tick _ | snapshot _ | transaction _ _ => exact .inl gone
  | check h =>
    obtain ⟨_, _, _, _, _, ⟨_, rfl⟩ | ⟨_, _, rfl⟩⟩ := SweepState.check_cases h <;> exact .inl gone
  | delete h =>
    obtain ⟨_, store, _, deleted, rfl⟩ := SweepState.delete_cases h
    refine .inl (Option.eq_none_iff_forall_not_mem.mpr fun p found => ?_)
    have kept : w.store.clientGet token = some p := (MemorySessionStore.deleteTokens_sub deleted).2.2 token p found
    rw [gone] at kept
    cases kept
  | @newSession p augment draws action request disclosed frontendAuth _ _ _ =>
    by_cases same : token = draws.clientToken
    · subst same
      exact .inr ⟨p, augment, draws, action, request, disclosed, frontendAuth, rfl,
        MemorySessionStore.clientGet_add_self, by simp⟩
    · exact .inl ((MemorySessionStore.clientGet_add_of_ne same).trans gone)
  | pairingRequest _ r acts =>
    exact .inl ((sessionMiddleware_clientGet (acts.pairingMiddleware.cacheMiddleware sha256) r _ token).trans gone)
  | frontendRequest _ r acts =>
    exact .inl ((sessionMiddleware_clientGet (acts.frontendMiddleware.cacheMiddleware sha256) r _ token).trans gone)

/-- Once no session is indexed under a client token, as after the sweep's deletion block has
removed a finished session, every request under that token is answered `sessionUnknown` and
changes nothing, along every run of the server, until a `newSession` adds a new session under
that very token: the deleted session never comes back. -/
theorem deleted_session_stays_unknown {w w' : SweepState} {token : ClientToken}
    (run : Relation.ReflTransGen (ServerStep errors sessionTokenRegex sha256) w w')
    (gone : w.store.clientGet token = none) :
    (w'.store.clientGet token = none ∧ ∀ (next : Handler) (r : Request), r.clientToken = token →
        sessionTokenRegex token = true →
        sessionMiddleware errors sessionTokenRegex next r w'.store = (writeError errors.sessionUnknown "", w'.store)) ∨
      ∃ w₁ w₂, Relation.ReflTransGen (ServerStep errors sessionTokenRegex sha256) w w₁ ∧
        ServerStep errors sessionTokenRegex sha256 w₁ w₂ ∧
        Relation.ReflTransGen (ServerStep errors sessionTokenRegex sha256) w₂ w' ∧ w₁.store.clientGet token = none ∧
        ∃ p augment draws action request disclosed frontendAuth, draws.clientToken = token ∧
          w₂.store.clientGet token = some p ∧
          w₂.store.heap p = some (newSession augment draws w₁.now action request disclosed frontendAuth) := by
  induction run with
  | refl => exact .inl ⟨gone, sessionMiddleware_of_clientGet_none gone⟩
  | @tail w₁ w₂ before step ih =>
    rcases ih with ⟨still, _⟩ | ⟨v₁, v₂, toV₁, added, fromV₂, rest⟩
    · rcases step.clientGet_none still with kept | added
      · exact .inl ⟨kept, sessionMiddleware_of_clientGet_none kept⟩
      · exact .inr ⟨w₁, w₂, before, step, .refl, still, added⟩
    · exact .inr ⟨v₁, v₂, toV₁, added, fromV₂.tail step, rest⟩

end Server

def serverWithNewSession : SweepState :=
  ⟨0, (MemorySessionStore.empty.setSession 0 legacyCallbackSession).add 0 legacyCallbackSession, .idle⟩

theorem serverWithNewSession_reachable (errors : ErrorTable) (sessionTokenRegex : String → Bool)
    (sha256 : Bytes → Bytes) : ServerReachable errors sessionTokenRegex sha256 serverWithNewSession :=
  .step (.initial 0) (.newSession false ⟨"clientToken", "requestorToken", "frontendAuth", 7⟩ actionDisclosing
    legacyCallbackRequest [] "" rfl (by simp [SweepState.initial, MemorySessionStore.empty])
    (by simp [SweepState.initial, MemorySessionStore.empty]))

theorem memory_server_invariant_newSession :
    let errors : ErrorTable := ⟨⟨"", 0, ""⟩, ⟨"", 0, ""⟩, ⟨"", 0, ""⟩, ⟨"", 0, ""⟩, ⟨"", 0, ""⟩, ⟨"", 0, ""⟩⟩
    let w := serverWithNewSession
    ServerReachable errors (fun _ => true) id w ∧
      (∀ p sd, w.store.heap p = some sd → Reachable sd ∧ ResultAgrees sd ∧ PairingInvariant sd) ∧
      (∀ p sd, w.store.heap p = some sd → sd.status.finished = false →
        w.store.get sd.requestorToken = some p ∧ w.store.clientGet sd.clientToken = some p) ∧
      ∀ expired, w.phase = .checking [] expired → ∃ w', w.delete = some w' :=
  have reachable := serverWithNewSession_reachable ⟨⟨"", 0, ""⟩, ⟨"", 0, ""⟩, ⟨"", 0, ""⟩, ⟨"", 0, ""⟩,
    ⟨"", 0, ""⟩, ⟨"", 0, ""⟩⟩ (fun _ => true) id
  ⟨reachable, memory_server_invariant reachable⟩

theorem deleted_session_stays_unknown_done :
    let errors : ErrorTable := ⟨⟨"", 0, ""⟩, ⟨"", 0, ""⟩, ⟨"", 0, ""⟩, ⟨"", 0, ""⟩, ⟨"", 0, ""⟩, ⟨"", 0, ""⟩⟩
    (sweepWithDoneSession ⟨"", 0, ""⟩).store.clientGet "clientToken" = some 0 ∧
    ∃ w, (sweepWithDoneSession ⟨"", 0, ""⟩).snapshot.check.bind SweepState.delete = some w ∧
      Relation.ReflTransGen (ServerStep errors (fun _ => true) id) w w ∧ w.store.clientGet "clientToken" = none ∧
      ((w.store.clientGet "clientToken" = none ∧ ∀ (next : Handler) (r : Request), r.clientToken = "clientToken" →
          (fun _ => true) "clientToken" = true →
          sessionMiddleware errors (fun _ => true) next r w.store = (writeError errors.sessionUnknown "", w.store)) ∨
        ∃ w₁ w₂, Relation.ReflTransGen (ServerStep errors (fun _ => true) id) w w₁ ∧
          ServerStep errors (fun _ => true) id w₁ w₂ ∧ Relation.ReflTransGen (ServerStep errors (fun _ => true) id) w₂ w ∧
          w₁.store.clientGet "clientToken" = none ∧
          ∃ p augment draws action request disclosed frontendAuth, draws.clientToken = "clientToken" ∧
            w₂.store.clientGet "clientToken" = some p ∧
            w₂.store.heap p = some (newSession augment draws w₁.now action request disclosed frontendAuth)) :=
  let w := (((sweepWithDoneSession ⟨"", 0, ""⟩).snapshot.check.bind SweepState.delete).getD (SweepState.initial 0))
  have run : Relation.ReflTransGen (ServerStep ⟨⟨"", 0, ""⟩, ⟨"", 0, ""⟩, ⟨"", 0, ""⟩, ⟨"", 0, ""⟩, ⟨"", 0, ""⟩,
      ⟨"", 0, ""⟩⟩ (fun _ => true) id) w w := .refl
  have gone : w.store.clientGet "clientToken" = none := rfl
  ⟨rfl, w, rfl, run, gone, deleted_session_stays_unknown run gone⟩

end IrmaServer
