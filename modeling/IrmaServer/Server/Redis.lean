import IrmaServer.Store.RedisLock

/-!
# Transactions on the Redis store serialize

`LockInvariant` says who makes the `SET` of `session:<C>`, and from which load. Here the handlers
are the server's: each changes the session it loaded by a run of transitions (the expiry check of
`clientGet` is one). Then in every run where the lock expires only while no replica is between
`update`'s TTL check and its `SET`, each step makes the value of `session:<C>` go on by a run of
transitions, as the one copy of the memory store does under the session's mutex: the commits
serialize and none is lost. In particular a stored session that has left `INITIALIZED` never
comes back to it, which `expired_lock_loses_update` shows fails once the lock may expire inside
`update`.
-/

namespace IrmaServer

/-! ## Runs of transitions -/

/-- `sd'` is `sd` after a run of the server's transitions. -/
def SessionData.Follows (sd sd' : SessionData) : Prop :=
  ∃ ts : List Transition, sd' = (Transition.run ts sd).1

namespace SessionData.Follows

variable {sd₁ sd₂ sd₃ : SessionData}

theorem refl (sd : SessionData) : sd.Follows sd := ⟨[], rfl⟩

theorem trans : sd₁.Follows sd₂ → sd₂.Follows sd₃ → sd₁.Follows sd₃
  | ⟨ts, h₂⟩, ⟨us, h₃⟩ => ⟨ts ++ us, by rw [h₃, h₂, Transition.run_append_fst]⟩

theorem reachable (follows : sd₁.Follows sd₂) (reachable : Reachable sd₁) : Reachable sd₂ := by
  obtain ⟨ts, rfl⟩ := follows
  exact reachable.run ts

theorem status_ne_initialized (follows : sd₁.Follows sd₂) (h : sd₁.status ≠ .initialized) :
    sd₂.status ≠ .initialized := by
  obtain ⟨ts, rfl⟩ := follows
  induction ts generalizing sd₁ with
  | nil => exact h
  | cons t ts ih => exact ih (t.options_eq h).2

end SessionData.Follows

/-! ## Serial runs -/

/-- A step whose handler, when it has one, changes the session it loaded only by a run of the
server's transitions. -/
def LockAction.ByTransitions : LockAction → Prop
  | .handle _ handler => ∀ sd : SessionData, sd.Follows (handler sd)
  | _ => True

def Phase.copy? : Phase → Option SessionData
  | .loaded sd _ | .handled sd _ | .checked sd _ | .wroteToken sd _ => some sd
  | _ => none

/-- The runs from `sd` in which every handler acts by transitions and the lock expires only while
no replica is between its TTL check and its `SET`. -/
inductive SerialReachable (sd : SessionData) : LockWorld → Prop
  | init : SerialReachable sd (.init sd)
  | step {w : LockWorld} (a : LockAction) : SerialReachable sd w → (a = .expire → w.windowClosed) →
      a.ByTransitions → SerialReachable sd (w.apply a)

theorem SerialReachable.guarded {sd : SessionData} {w : LockWorld} (reachable : SerialReachable sd w) :
    GuardedReachable sd w := by
  induction reachable with
  | init => exact .init
  | step a _ guard _ ih => exact ih.step a guard

/-- The stored session went on from `sd`, no load saw more commits than there are, and the copy of
a replica whose load saw every commit went on from the stored session. -/
structure Serializes (sd : SessionData) (w : LockWorld) : Prop where
  stored : sd.Follows w.session
  seen_le : ∀ i k, (w.phases i).seen? = some k → k ≤ w.commits
  copy : ∀ i c, (w.phases i).copy? = some c → (w.phases i).seen? = some w.commits → w.session.Follows c

namespace Serializes

variable {sd : SessionData} {w : LockWorld}

theorem init (sd : SessionData) : Serializes sd (.init sd) :=
  ⟨.refl sd, fun _ _ => nofun, fun _ _ => nofun⟩

theorem withLock (ser : Serializes sd w) (lock : Option Nat) : Serializes sd { w with lock := lock } :=
  ⟨ser.stored, ser.seen_le, ser.copy⟩

theorem setPhase (ser : Serializes sd w) {i : Nat} {phase : Phase}
    (seen_le : ∀ k, phase.seen? = some k → k ≤ w.commits)
    (copy : ∀ c, phase.copy? = some c → phase.seen? = some w.commits → w.session.Follows c) :
    Serializes sd (w.setPhase i phase) := by
  refine ⟨ser.stored, fun j k hk => ?_, fun j c hc hk => ?_⟩
  · by_cases h : j = i
    · subst h
      exact seen_le k (by simpa using hk)
    · exact ser.seen_le j k (by simpa [h] using hk)
  · by_cases h : j = i
    · subst h
      exact copy c (by simpa using hc) (by simpa using hk)
    · exact ser.copy j c (by simpa [h] using hc) (by simpa [h] using hk)

theorem setPhase_same (ser : Serializes sd w) {i : Nat} {phase : Phase}
    (seen : phase.seen? = (w.phases i).seen?) (copy : phase.copy? = (w.phases i).copy?) :
    Serializes sd (w.setPhase i phase) :=
  ser.setPhase (fun k hk => ser.seen_le i k (seen ▸ hk)) fun c hc hk => ser.copy i c (copy ▸ hc) (seen ▸ hk)

theorem setPhase_none (ser : Serializes sd w) {i : Nat} {phase : Phase} (seen : phase.seen? = none) :
    Serializes sd (w.setPhase i phase) :=
  ser.setPhase (fun _ hk => by simp [seen] at hk) fun _ _ hk => by simp [seen] at hk

theorem step (inv : LockInvariant w) (ser : Serializes sd w) (a : LockAction) (acts : a.ByTransitions) :
    Serializes sd (w.apply a) ∧ w.session.Follows (w.apply a).session := by
  cases a with
  | obtain i =>
    simp only [LockWorld.apply]
    split
    · exact ⟨(ser.withLock _).setPhase_none rfl, .refl _⟩
    · exact ⟨ser, .refl _⟩
  | load i =>
    simp only [LockWorld.apply]
    split
    · exact ⟨ser.setPhase (fun _ hk => Option.some.inj hk ▸ le_refl _)
        (fun _ hc _ => Option.some.inj hc ▸ .refl _), .refl _⟩
    · exact ⟨ser, .refl _⟩
  | handle i handler =>
    simp only [LockWorld.apply]
    split
    · rename_i loaded k hp
      refine ⟨ser.setPhase (fun k' hk => ser.seen_le i k' (by simpa [hp, Phase.seen?] using hk))
        fun c hc hk => ?_, .refl _⟩
      simp only [Phase.copy?, Phase.seen?, Option.some.injEq] at hc hk
      exact hc ▸ (ser.copy i loaded (by simp [hp, Phase.copy?]) (by simp [hp, Phase.seen?, hk])).trans
        (acts loaded)
    · exact ⟨ser, .refl _⟩
  | check i =>
    simp only [LockWorld.apply]
    split
    · rename_i _ _ hp
      split
      · exact ⟨ser.setPhase_same (by simp [hp, Phase.seen?]) (by simp [hp, Phase.copy?]), .refl _⟩
      · exact ⟨ser.setPhase_none rfl, .refl _⟩
    · exact ⟨ser, .refl _⟩
  | setToken i =>
    simp only [LockWorld.apply]
    split
    · rename_i _ _ hp
      exact ⟨ser.setPhase_same (by simp [hp, Phase.seen?]) (by simp [hp, Phase.copy?]), .refl _⟩
    · exact ⟨ser, .refl _⟩
  | setSession i =>
    simp only [LockWorld.apply]
    split
    · rename_i copy k hp
      have held := inv.window i (by simp [hp, Phase.inWindow])
      have current : k = w.commits := inv.current i k held (by simp [hp, Phase.seen?])
      have follows := ser.copy i copy (by simp [hp, Phase.copy?]) (by simp [hp, Phase.seen?, current])
      have committed : Serializes sd { w with session := copy, commits := w.commits + 1 } :=
        ⟨ser.stored.trans follows, fun j k' hk => Nat.le_succ_of_le (ser.seen_le j k' hk),
          fun j _ _ hk => absurd (ser.seen_le j _ hk) (Nat.not_succ_le_self _)⟩
      exact ⟨committed.setPhase_none rfl, follows⟩
    · exact ⟨ser, .refl _⟩
  | unlock i =>
    simp only [LockWorld.apply]
    split
    · exact ⟨(ser.withLock _).setPhase_none rfl, .refl _⟩
    · exact ⟨ser, .refl _⟩
  | expire => exact ⟨ser.withLock none, .refl _⟩

end Serializes

theorem serializes_reachable {sd : SessionData} {w : LockWorld} (reachable : SerialReachable sd w) :
    Serializes sd w := by
  induction reachable with
  | init => exact .init sd
  | step a r _ acts ih => exact (ih.step (lockInvariant_reachable r.guarded) a acts).1

/-- In every run of the Redis store in which the handlers act by transitions and the lock expires
only while no replica is between `update`'s TTL check and its `SET`: the stored session went on
from the one `add` stored by a run of transitions, and whatever step comes next (a `SET` or an
expiry of the lock included) makes it go on by another. So the stored session is one the server
could reach whenever the first was, and once it has left `INITIALIZED` no step brings it back. -/
theorem redis_transactions_serialize {sd : SessionData} {w : LockWorld} (reachable : SerialReachable sd w) :
    sd.Follows w.session ∧
    (∀ a : LockAction, a.ByTransitions → w.session.Follows (w.apply a).session) ∧
    (Reachable sd → Reachable w.session) ∧
    (w.session.status ≠ .initialized → ∀ a : LockAction, a.ByTransitions →
      (w.apply a).session.status ≠ .initialized) := by
  have ser := serializes_reachable reachable
  have next := fun a acts => (ser.step (lockInvariant_reachable reachable.guarded) a acts).2
  exact ⟨ser.stored, next, ser.stored.reachable, fun left a acts => (next a acts).status_ne_initialized left⟩

theorem redis_transactions_serialize_connect :
    let w := (LockWorld.init legacyCallbackSession).run
      [.obtain 0, .load 0, .handle 0 (fun sd => ((clientConnects ⟨"", 0, ""⟩).apply sd).1), .check 0,
       .setToken 0, .setSession 0, .unlock 0]
    SerialReachable legacyCallbackSession w ∧ w.session.status = .connected ∧
      legacyCallbackSession.Follows w.session ∧
      (∀ a : LockAction, a.ByTransitions → w.session.Follows (w.apply a).session) ∧
      (Reachable legacyCallbackSession → Reachable w.session) ∧
      (w.session.status ≠ .initialized → ∀ a : LockAction, a.ByTransitions →
        (w.apply a).session.status ≠ .initialized) :=
  have reachable : SerialReachable legacyCallbackSession _ :=
    ((((((SerialReachable.init.step (.obtain 0) nofun trivial).step (.load 0) nofun trivial).step
      (.handle 0 fun sd => ((clientConnects ⟨"", 0, ""⟩).apply sd).1) nofun
        fun _ => ⟨[clientConnects ⟨"", 0, ""⟩], rfl⟩).step (.check 0) nofun trivial).step
      (.setToken 0) nofun trivial).step (.setSession 0) nofun trivial).step (.unlock 0) nofun trivial
  ⟨reachable, rfl, redis_transactions_serialize reachable⟩

end IrmaServer
