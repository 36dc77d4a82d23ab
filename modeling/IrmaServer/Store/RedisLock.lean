import IrmaServer.Store.Redis

/-!
# Transactions on the Redis store

The transaction of a server replica on one session of `redisSessionStore`: `lock` obtains
`lock:<C>` for `maxLockLifetime`, `clientGet` loads the session, the handler changes it, and
`update` checks the lock's TTL and then makes the two `SET`s of `add`, before `unlock`. The
replicas interleave at these steps, and the lock may expire between any two of them.

`update`'s check and its `SET`s are separate steps. When the lock expires between them, another
replica can take the lock and commit, and the first replica's `SET` then overwrites that commit
with a session it loaded before it (`expired_lock_loses_update`). With expiry excluded from that
window, and only there, every run keeps `LockInvariant`: a replica between its check and its
`SET` holds the lock, and the holder's load saw every commit before it.
-/

namespace IrmaServer

/-- Where the transaction of a replica is. `seen` is the number of commits to `session:<C>`
there had been when the replica loaded the session (a ghost counter). -/
inductive Phase
  | idle
  | locked
  | loaded (sd : SessionData) (seen : Nat)
  | handled (sd : SessionData) (seen : Nat)
  | checked (sd : SessionData) (seen : Nat)
  | wroteToken (sd : SessionData) (seen : Nat)
  | wroteSession

namespace Phase

def inWindow : Phase → Bool
  | .checked .. | .wroteToken .. => true
  | _ => false

def seen? : Phase → Option Nat
  | .loaded _ k | .handled _ k | .checked _ k | .wroteToken _ k => some k
  | _ => none

end Phase

/-- One session's keys as the replicas see them: the holder of `lock:<C>`, the value of
`session:<C>`, the number of commits to it so far, and the phase of every replica. -/
structure LockWorld where
  lock : Option Nat
  session : SessionData
  commits : Nat
  phases : Nat → Phase

/-- The steps of the replicas' transactions, and the expiry of the lock. A handler may be any
change to the session, the expiry check of `clientGet` included. -/
inductive LockAction
  | obtain (i : Nat)
  | load (i : Nat)
  | handle (i : Nat) (handler : SessionData → SessionData)
  | check (i : Nat)
  | setToken (i : Nat)
  | setSession (i : Nat)
  | unlock (i : Nat)
  | expire

namespace LockAction

def isExpire : LockAction → Bool
  | .expire => true
  | _ => false

end LockAction

namespace LockWorld

def init (sd : SessionData) : LockWorld := ⟨none, sd, 0, fun _ => .idle⟩

def setPhase (w : LockWorld) (i : Nat) (phase : Phase) : LockWorld :=
  { w with phases := Function.update w.phases i phase }

/-- One step. `obtain` waits while another replica holds the lock; a failed TTL check ends the
transaction, whose `Release` of a lock it does not hold changes nothing; a replica that is not
at the step changes nothing. -/
def apply (w : LockWorld) : LockAction → LockWorld
  | .obtain i =>
    match w.phases i, w.lock with
    | .idle, none => { w with lock := some i }.setPhase i .locked
    | _, _ => w
  | .load i =>
    match w.phases i with
    | .locked => w.setPhase i (.loaded w.session w.commits)
    | _ => w
  | .handle i handler =>
    match w.phases i with
    | .loaded sd k => w.setPhase i (.handled (handler sd) k)
    | _ => w
  | .check i =>
    match w.phases i with
    | .handled sd k => if w.lock = some i then w.setPhase i (.checked sd k) else w.setPhase i .idle
    | _ => w
  | .setToken i =>
    match w.phases i with
    | .checked sd k => w.setPhase i (.wroteToken sd k)
    | _ => w
  | .setSession i =>
    match w.phases i with
    | .wroteToken sd _ => { w with session := sd, commits := w.commits + 1 }.setPhase i .wroteSession
    | _ => w
  | .unlock i =>
    match w.phases i with
    | .wroteSession => { w with lock := if w.lock = some i then none else w.lock }.setPhase i .idle
    | _ => w
  | .expire => { w with lock := none }

def run (w : LockWorld) : List LockAction → LockWorld
  | [] => w
  | a :: as => (w.apply a).run as

/-- The `SET` of `session:<C>` a step makes: the writer, and the commits its load saw. -/
def write? (w : LockWorld) : LockAction → Option (Nat × Nat)
  | .setSession i =>
    match w.phases i with
    | .wroteToken _ k => some (i, k)
    | _ => none
  | _ => none

def windowClosed (w : LockWorld) : Prop := ∀ i, (w.phases i).inWindow = false

@[simp] theorem setPhase_lock (w : LockWorld) (i : Nat) (phase : Phase) :
    (w.setPhase i phase).lock = w.lock := rfl

@[simp] theorem setPhase_commits (w : LockWorld) (i : Nat) (phase : Phase) :
    (w.setPhase i phase).commits = w.commits := rfl

@[simp] theorem setPhase_phases_self (w : LockWorld) (i : Nat) (phase : Phase) :
    (w.setPhase i phase).phases i = phase := Function.update_same _ _ _

@[simp] theorem setPhase_phases_ne {w : LockWorld} {i j : Nat} (phase : Phase) (h : j ≠ i) :
    (w.setPhase i phase).phases j = w.phases j := Function.update_noteq h _ _

end LockWorld

/-- The runs from `sd` in which the lock expires only while no replica is between its TTL
check and its `SET`. -/
inductive GuardedReachable (sd : SessionData) : LockWorld → Prop
  | init : GuardedReachable sd (.init sd)
  | step {w : LockWorld} (a : LockAction) : GuardedReachable sd w →
      (a = .expire → w.windowClosed) → GuardedReachable sd (w.apply a)

theorem GuardedReachable.run {sd : SessionData} {w : LockWorld} (reachable : GuardedReachable sd w)
    (as : List LockAction) (noExpiry : as.all (fun a => !a.isExpire) = true) :
    GuardedReachable sd (w.run as) := by
  induction as generalizing w with
  | nil => exact reachable
  | cons a as ih =>
    simp only [List.all_cons, Bool.and_eq_true, Bool.not_eq_true'] at noExpiry
    exact ih (reachable.step a fun h => by simp [h, LockAction.isExpire] at noExpiry) noExpiry.2

/-- A replica between its check and its `SET` holds the lock, and the holder's load saw every
commit. -/
structure LockInvariant (w : LockWorld) : Prop where
  window : ∀ i, (w.phases i).inWindow = true → w.lock = some i
  current : ∀ i k, w.lock = some i → (w.phases i).seen? = some k → k = w.commits

namespace LockInvariant

variable {w : LockWorld}

theorem init (sd : SessionData) : LockInvariant (LockWorld.init sd) :=
  ⟨fun _ => nofun, fun _ _ => nofun⟩

theorem of_moves (inv : LockInvariant w) {w' : LockWorld} (i : Nat)
    (others : ∀ j, j ≠ i → w'.phases j = w.phases j)
    (window : (w'.phases i).inWindow = true → w'.lock = some i)
    (current : ∀ k, w'.lock = some i → (w'.phases i).seen? = some k → k = w'.commits)
    (keeps : ∀ j, j ≠ i → w.lock = some j → w'.lock = some j)
    (holds : ∀ j, j ≠ i → w'.lock = some j → w.lock = some j ∧ w'.commits = w.commits) :
    LockInvariant w' := by
  constructor
  · intro j hj
    by_cases h : j = i
    · subst h
      exact window hj
    · exact keeps j h (inv.window j (others j h ▸ hj))
  · intro j k hl hk
    by_cases h : j = i
    · subst h
      exact current k hl hk
    · obtain ⟨held, same⟩ := holds j h hl
      rw [same]
      exact inv.current j k held (others j h ▸ hk)

theorem setPhase (inv : LockInvariant w) {i : Nat} {phase : Phase}
    (window : phase.inWindow = true → w.lock = some i)
    (current : ∀ k, w.lock = some i → phase.seen? = some k → k = w.commits) :
    LockInvariant (w.setPhase i phase) :=
  inv.of_moves i (fun _ h => by simp [h]) (by simpa using window) (by simpa using current)
    (fun _ _ held => held) (fun _ _ held => ⟨held, rfl⟩)

theorem setPhase_seen (inv : LockInvariant w) {i : Nat} {phase : Phase}
    (window : phase.inWindow = true → w.lock = some i) (seen : phase.seen? = (w.phases i).seen?) :
    LockInvariant (w.setPhase i phase) :=
  inv.setPhase window fun k held hk => inv.current i k held (seen ▸ hk)

theorem step (inv : LockInvariant w) (a : LockAction) (guard : a = .expire → w.windowClosed) :
    LockInvariant (w.apply a) := by
  cases a with
  | obtain i =>
    simp only [LockWorld.apply]
    split
    · rename_i idle free
      refine inv.of_moves i (fun _ h => by simp [h]) (by simp [Phase.inWindow]) (by simp [Phase.seen?])
        (fun j _ held => by simp [free] at held) (fun j h hl => ?_)
      simp only [LockWorld.setPhase_lock, Option.some.injEq] at hl
      exact absurd hl.symm h
    · exact inv
  | load i =>
    simp only [LockWorld.apply]
    split
    · exact inv.setPhase nofun fun k _ hk => by simpa [Phase.seen?] using hk.symm
    · exact inv
  | handle i handler =>
    simp only [LockWorld.apply]
    split
    · rename_i sd k hp
      exact inv.setPhase_seen nofun (by simp [hp, Phase.seen?])
    · exact inv
  | check i =>
    simp only [LockWorld.apply]
    split
    · rename_i sd k hp
      split
      · rename_i held
        exact inv.setPhase_seen (fun _ => held) (by simp [hp, Phase.seen?])
      · exact inv.setPhase nofun nofun
    · exact inv
  | setToken i =>
    simp only [LockWorld.apply]
    split
    · rename_i sd k hp
      exact inv.setPhase_seen (fun _ => inv.window i (by simp [hp, Phase.inWindow]))
        (by simp [hp, Phase.seen?])
    · exact inv
  | setSession i =>
    simp only [LockWorld.apply]
    split
    · rename_i sd k hp
      have held := inv.window i (by simp [hp, Phase.inWindow])
      refine inv.of_moves i (fun _ h => by simp [h]) (by simp [Phase.inWindow]) (by simp [Phase.seen?])
        (fun _ _ held' => held') (fun j h hl => ?_)
      simp only [LockWorld.setPhase_lock, held, Option.some.injEq] at hl
      exact absurd hl.symm h
    · exact inv
  | unlock i =>
    simp only [LockWorld.apply]
    split
    · refine inv.of_moves i (fun _ h => by simp [h]) (by simp [Phase.inWindow]) (by simp [Phase.seen?])
        (fun j h held => by simp [held, h]) (fun j h hl => ?_)
      by_cases held : w.lock = some i
      · simp [held] at hl
      · simpa [held] using hl
    · exact inv
  | expire =>
    have closed := guard rfl
    refine ⟨fun i hi => ?_, fun _ _ hl => by cases hl⟩
    have window : (w.phases i).inWindow = true := hi
    simp [closed i] at window

end LockInvariant

theorem lockInvariant_reachable {sd : SessionData} {w : LockWorld} (reachable : GuardedReachable sd w) :
    LockInvariant w := by
  induction reachable with
  | init => exact LockInvariant.init sd
  | step a _ guard ih => exact ih.step a guard

/-- Replica `0` polls the session (a handler that only marks it alive) while replica `1` runs
the client's connect. Replica `0` passes its TTL check; its lock then expires; replica `1` takes
the lock, loads, connects the session, commits and unlocks; replica `0` then writes the token key.
(The error the connect would fail with plays no part.) -/
def lostUpdateRun : LockWorld :=
  (LockWorld.init legacyCallbackSession).run
    [.obtain 0, .load 0, .handle 0 (fun sd => sd.markAlive 1), .check 0, .expire,
     .obtain 1, .load 1, .handle 1 (fun sd => ((clientConnects ⟨"", 0, ""⟩).apply sd).1), .check 1,
     .setToken 1, .setSession 1, .unlock 1, .setToken 0]

/-- After `lostUpdateRun`, the `SET` of `session:<C>` replica `0` makes next is made without the
lock, from a load older than the commit of replica `1`, and the stored session, `CONNECTED`
before it, is `INITIALIZED` again after it. -/
theorem expired_lock_loses_update :
    lostUpdateRun.session.status = .connected ∧ lostUpdateRun.write? (.setSession 0) = some (0, 0) ∧
      lostUpdateRun.lock = none ∧ lostUpdateRun.commits = 1 ∧
      (lostUpdateRun.apply (.setSession 0)).session.status = .initialized :=
  ⟨rfl, rfl, rfl, rfl, rfl⟩

end IrmaServer
