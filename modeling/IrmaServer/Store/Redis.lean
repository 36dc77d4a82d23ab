import IrmaServer.Session.Invariants
import Mathlib.Data.List.AList

/-!
# The Redis session store

`redisSessionStore` (`sessions.go`): every session under two keys written together by `add`,
`token:<R>` holding the client token and `session:<C>` holding the session, both with an
expiration computed from the session's status. The value of `session:<C>` is the session
itself; `Store.RedisWire` shows that the store of JSON the code keeps refines this one when it
holds each session as JSON gives it back (`SessionData.afterJSON`). A load through `get` or
`clientGet` runs the expiry check of `clientGet` on the loaded copy and writes nothing back, so
its `TIMEOUT` and the result callback it posts come again at every load.
-/

namespace IrmaServer

/-- A Redis value with the time `SET` wrote it and the expiration it was given. -/
structure RedisValue (α : Type) where
  value : α
  written : Time
  expiration : Duration
  deriving DecidableEq, Repr

/-- Whether the key still exists at `now`; go-redis sends no expiry for an expiration that is
not positive. -/
def RedisValue.alive {α : Type} (v : RedisValue α) (now : Time) : Bool :=
  !(0 < v.expiration) || now < v.written + v.expiration

theorem RedisValue.alive_written {α : Type} (v : RedisValue α) : v.alive v.written = true := by
  by_cases positive : 0 < v.expiration <;> simp [RedisValue.alive, positive]

/-- The keys of the store: `token:<R>` and `session:<C>`. -/
structure RedisSessionStore where
  tokens : AList fun _ : RequestorToken => RedisValue ClientToken
  sessions : AList fun _ : ClientToken => RedisValue SessionData

namespace RedisSessionStore

def empty : RedisSessionStore := ⟨∅, ∅⟩

def addTimeout (sd : SessionData) : Duration :=
  if sd.status = .initialized ∧ sd.rrequest.base.clientTimeout ≠ 0 then
    durationOf sd.rrequest.base.clientTimeout second
  else if sd.status.finished then maxSessionLifetime
  else 2 * maxSessionLifetime

def add (s : RedisSessionStore) (sd : SessionData) (now : Time) : RedisSessionStore :=
  let timeout := addTimeout sd
  ⟨s.tokens.insert sd.requestorToken ⟨sd.clientToken, now, timeout⟩,
   s.sessions.insert sd.clientToken ⟨sd, now, timeout⟩⟩

def clientGet (s : RedisSessionStore) (token : ClientToken) (now : Time) :
    Option (SessionData × List ResultCallback) :=
  (s.sessions.lookup token).bind fun v =>
    if v.alive now then some (v.value.clientGetExpiryCheck now) else none

def get (s : RedisSessionStore) (token : RequestorToken) (now : Time) :
    Option (SessionData × List ResultCallback) :=
  (s.tokens.lookup token).bind fun v => if v.alive now then s.clientGet v.value now else none

theorem clientGet_add (s : RedisSessionStore) (sd : SessionData) (written now : Time) :
    (s.add sd written).clientGet sd.clientToken now =
      if (⟨sd, written, addTimeout sd⟩ : RedisValue SessionData).alive now then
        some (sd.clientGetExpiryCheck now) else none := by
  simp [add, clientGet]

theorem get_add (s : RedisSessionStore) (sd : SessionData) (written now : Time) :
    (s.add sd written).get sd.requestorToken now = (s.add sd written).clientGet sd.clientToken now := by
  have lookup : (s.add sd written).tokens.lookup sd.requestorToken =
      some ⟨sd.clientToken, written, addTimeout sd⟩ := AList.lookup_insert _
  rw [get, lookup, Option.some_bind, clientGet_add]
  simp only [RedisValue.alive]
  split <;> simp_all

end RedisSessionStore

namespace SessionData

theorem clientGetExpiryCheck_rrequest (sd : SessionData) (now : Time) :
    (sd.clientGetExpiryCheck now).1.rrequest = sd.rrequest := by
  unfold clientGetExpiryCheck
  split <;> rfl

theorem deleteExpiredCheck_status (sd : SessionData) (now : Time) :
    (sd.deleteExpiredCheck now).1.status =
      if sd.lastActive + sd.memoryTimeout < now ∧ sd.status.finished = false then .timeout
      else sd.status := by
  unfold deleteExpiredCheck
  by_cases expired : sd.lastActive + sd.memoryTimeout < now <;> by_cases live : sd.status.finished <;>
    simp [expired, live]

theorem memoryTimeout_of_not_clientTimeout {sd : SessionData}
    (h : ¬(sd.status = .initialized ∧ sd.rrequest.base.clientTimeout ≠ 0)) :
    sd.memoryTimeout = maxSessionLifetime := by
  simp only [memoryTimeout, if_neg h]

theorem clientGetExpiryCheck_posted {sd : SessionData} {now : Time}
    (expired : sd.lastActive + maxSessionLifetime < now) (live : sd.status.finished = false)
    (callback : sd.rrequest.base.callbackURL ≠ "") :
    (sd.clientGetExpiryCheck now).2.length = 1 := by
  have timeout : ServerStatus.timeout.finished = true := rfl
  simp [clientGetExpiryCheck, expired, live, setStatus_snd, timeout, doResultCallback, callback]

end SessionData

theorem RedisSessionStore.get_add_posted {s : RedisSessionStore} {sd : SessionData} {written now : Time}
    (alive : (⟨sd, written, addTimeout sd⟩ : RedisValue SessionData).alive now = true)
    (expired : sd.lastActive + maxSessionLifetime < now) (live : sd.status.finished = false)
    (callback : sd.rrequest.base.callbackURL ≠ "") :
    ((s.add sd written).get sd.requestorToken now).map (fun l => l.2.length) = some 1 := by
  rw [get_add, clientGet_add, if_pos alive]
  exact congrArg some (SessionData.clientGetExpiryCheck_posted expired live callback)

def clientTimeoutSession (c : Int) : SessionData :=
  newSession false ⟨"clientToken", "requestorToken", "frontendAuth", 7⟩ 0 actionDisclosing
    { legacyCallbackRequest with base := { legacyCallbackRequest.base with clientTimeout := c } } [] ""

/-- With a `ClientTimeout` of ten minutes, a load from Redis six minutes after the session was
added times it out while a memory pass leaves it `INITIALIZED`. With one minute, added thirty
seconds after `LastActive`, a load at seventy seconds leaves it `INITIALIZED` while a memory pass
times it out. The keys exist at both loads. -/
theorem redis_and_memory_expiry_disagree :
    Reachable (clientTimeoutSession 600) ∧
      ((RedisSessionStore.empty.add (clientTimeoutSession 600) 0).clientGet "clientToken"
        (6 * minute)).map (fun l => l.1.status) = some .timeout ∧
      ((clientTimeoutSession 600).deleteExpiredCheck (6 * minute)).1.status = .initialized ∧
      Reachable (clientTimeoutSession 60) ∧
      ((RedisSessionStore.empty.add (clientTimeoutSession 60) (30 * second)).clientGet "clientToken"
        (70 * second)).map (fun l => l.1.status) = some .initialized ∧
      ((clientTimeoutSession 60).deleteExpiredCheck (70 * second)).1.status = .timeout :=
  ⟨.newSession .., rfl, rfl, .newSession .., rfl, rfl⟩

/-- The result of a session is posted more than once: by `fail` on a session that is already
`DONE`, and by every load from Redis of a live session past its lifetime, since the `TIMEOUT`
the load sets is not written back. -/
theorem result_callback_posted_twice (err : ServerError) (message : String) :
    let failed := Transition.run (connectAndRespond err ++ [.op (.fail err message)]) legacyCallbackSession
    let stored := RedisSessionStore.empty.add legacyCallbackSession 0
    Reachable failed.1 ∧ failed.2.length = 2 ∧
      (stored.get "requestorToken" (maxSessionLifetime + 1)).map (fun l => l.2.length) = some 1 ∧
      (stored.get "requestorToken" (maxSessionLifetime + 2)).map (fun l => l.2.length) = some 1 :=
  ⟨(Reachable.newSession ..).run _, rfl,
    RedisSessionStore.get_add_posted rfl (by decide) rfl (by decide),
    RedisSessionStore.get_add_posted rfl (by decide) rfl (by decide)⟩

end IrmaServer
