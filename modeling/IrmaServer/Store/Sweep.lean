import IrmaServer.Store.Memory

/-!
# Overlapping expiry sweeps

`memorySessionStore.deleteExpired` in its three critical sections: the snapshot of
`s.requestor` under the read lock, the check of one session under that session's lock, and
the deletion block under the write lock. Passes, `add`, `get` and `clientGet` interleave at
these steps. Two passes that both find the same finished session expired both schedule its
deletion; the second deletion block then finds the token gone and dereferences a nil session.
-/

namespace IrmaServer

/-- A running pass of `deleteExpired`: the part of its snapshot still to check and the tokens
found expired so far; or a pass that has finished. -/
inductive Pass
  | checking (now : Time) (toCheck : List (RequestorToken × Ptr)) (expired : List RequestorToken)
  | finished

/-- A memory store with the passes of `deleteExpired` started on it, by number. -/
structure Sweeps where
  store : MemorySessionStore
  passes : List Pass

inductive SweepAction
  | snapshot (now : Time)
  | check (pass : Nat)
  | delete (pass : Nat)
  | add (p : Ptr) (sd : SessionData)
  | get (token : RequestorToken)
  | clientGet (token : ClientToken)

namespace Sweeps

def setPass (w : Sweeps) (i : Nat) (pass : Pass) : Sweeps := { w with passes := w.passes.set i pass }

/-- One atomic step. `none` is the nil dereference of the deletion block; a step a pass is not
ready for changes nothing. -/
def apply (w : Sweeps) : SweepAction → Option Sweeps
  | .snapshot now => some { w with passes := w.passes ++ [.checking now w.store.snapshot []] }
  | .check i =>
    match w.passes[i]? with
    | some (.checking now ((token, p) :: rest) expired) =>
      match w.store.heap p with
      | none => some (w.setPass i (.checking now rest expired))
      | some sd =>
        let (sd', isExpired, _) := sd.deleteExpiredCheck now
        some ({ w with store := w.store.setSession p sd' }.setPass i
          (.checking now rest (if isExpired then expired ++ [token] else expired)))
    | _ => some w
  | .delete i =>
    match w.passes[i]? with
    | some (.checking _ [] expired) =>
      (w.store.deleteTokens expired).map fun store => { w with store := store }.setPass i .finished
    | _ => some w
  | .add p sd => some { w with store := (w.store.setSession p sd).add p sd }
  | .get _ => some w
  | .clientGet _ => some w

def run (w : Sweeps) : List SweepAction → Option Sweeps
  | [] => some w
  | a :: as => (w.apply a).bind fun w' => w'.run as

end Sweeps

def storeWithConnectedSession (err : ServerError) : MemorySessionStore :=
  let added := (MemorySessionStore.empty.setSession 0 legacyCallbackSession).add 0 legacyCallbackSession
  added.setSession 0 ((clientConnects err).apply legacyCallbackSession).1

theorem storeWithConnectedSession_reachable (err : ServerError) :
    MemoryReachable (storeWithConnectedSession err) :=
  have added : MemoryReachable
      ((MemorySessionStore.empty.setSession 0 legacyCallbackSession).add 0 legacyCallbackSession) :=
    .step .empty (.add rfl (by simp [MemorySessionStore.empty]) (by simp [MemorySessionStore.empty]))
  added.step (@MemoryStep.transaction _ "clientToken" 0 legacyCallbackSession (clientConnects err) rfl rfl)

def storeWithDoneSession (err : ServerError) : MemorySessionStore :=
  let added := (MemorySessionStore.empty.setSession 0 legacyCallbackSession).add 0 legacyCallbackSession
  let connected := (clientConnects err).apply legacyCallbackSession
  (added.setSession 0 connected.1).setSession 0 ((clientResponds err).apply connected.1).1

theorem storeWithDoneSession_reachable (err : ServerError) : MemoryReachable (storeWithDoneSession err) :=
  (storeWithConnectedSession_reachable err).step
    (@MemoryStep.transaction _ "clientToken" 0 _ (clientResponds err) rfl rfl)

/-- Two passes at a time past the session's lifetime both snapshot the store and both judge the
`DONE` session expired before either deletes it. The first deletion block removes it; the
second looks its token up again and dereferences nil. Run one after the other, the passes
complete. -/
theorem overlapping_passes_dereference_nil (err : ServerError) :
    let w : Sweeps := ⟨storeWithDoneSession err, []⟩
    let now := 3 + maxSessionLifetime
    MemoryReachable w.store ∧
      (w.run [.snapshot now, .snapshot now, .check 0, .check 1, .delete 0]).isSome ∧
      w.run [.snapshot now, .snapshot now, .check 0, .check 1, .delete 0, .delete 1] = none ∧
      (w.run [.snapshot now, .check 0, .delete 0, .snapshot now, .check 1, .delete 1]).isSome :=
  ⟨storeWithDoneSession_reachable err, rfl, rfl, rfl⟩

end IrmaServer
