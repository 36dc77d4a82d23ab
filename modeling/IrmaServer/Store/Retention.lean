import IrmaServer.Store.Sweep
import IrmaServer.Store.Redis
import IrmaServer.Session.Callbacks

/-!
# Retention under the expiry sweep

The memory store with the server's sweep task, which runs `memorySessionStore.deleteExpired`
pass after pass, on a clock that never goes back. A pass is three critical sections: the
snapshot of `s.requestor`, the check of each session under its lock at the time that check
runs, and the deletion block. `newSession`'s `add` and the handlers' transactions run between
them. A session leaves the index only in a deletion block, among the tokens whose sessions the
pass's checks found finished and past `maxSessionLifetime`. So a live session is never
removed, and a session that a pass times out at `t` stays retrievable until
`t + maxSessionLifetime`.
-/

namespace IrmaServer

/-! ## Sessions under the sweep -/

namespace SessionData

/-- A session the sweep must keep at time `now`: live, or finished within `maxSessionLifetime`
of its last activity. -/
def Retained (sd : SessionData) (now : Time) : Prop :=
  sd.status.finished = false ∨ now ≤ sd.lastActive + maxSessionLifetime

theorem Retained.earlier {sd : SessionData} {now later : Time} (retained : sd.Retained later)
    (before : now ≤ later) : sd.Retained now :=
  retained.imp id fun within => le_trans before within

theorem deleteExpiredCheck_flagged {sd : SessionData} {now : Time}
    (flagged : (sd.deleteExpiredCheck now).2.1 = true) :
    sd.status.finished = true ∧ sd.lastActive + maxSessionLifetime < now ∧
      (sd.deleteExpiredCheck now).1 = sd := by
  unfold deleteExpiredCheck at flagged ⊢
  by_cases expired : sd.lastActive + sd.memoryTimeout < now <;>
    by_cases live : sd.status.finished <;> simp [expired, live] at flagged ⊢
  have settled : ¬(sd.status = .initialized ∧ sd.rrequest.base.clientTimeout ≠ 0) := fun h => by
    simp [h.1, ServerStatus.finished] at live
  rwa [memoryTimeout_of_not_clientTimeout settled] at expired

theorem deleteExpiredCheck_lastActive {sd : SessionData} {now : Time} (live : sd.status.finished = false)
    (done : (sd.deleteExpiredCheck now).1.status.finished = true) :
    (sd.deleteExpiredCheck now).1.lastActive = now := by
  unfold deleteExpiredCheck at done ⊢
  by_cases expired : sd.lastActive + sd.memoryTimeout < now <;> simp [expired, live] at done ⊢

end SessionData

theorem Transition.apply_of_finished (t : Transition) {sd : SessionData}
    (done : sd.status.finished = true) :
    (t.apply sd).1.status.finished = true ∧ (t.apply sd).1.lastActive = sd.lastActive ∧
      (t.apply sd).1.tokens = sd.tokens := by
  refine ⟨t.finished_stays done, ?_, t.apply_tokens sd⟩
  rcases (t.follows_machine sd).2 done with ⟨c, cache⟩ | ⟨err, message, failed⟩
  · rw [cache]
  · rw [failed]
    rfl

theorem Transition.retained_of_apply (t : Transition) {sd : SessionData} {now : Time}
    (retained : (t.apply sd).1.Retained now) : sd.Retained now := by
  cases done : sd.status.finished with
  | false => exact .inl done
  | true =>
    obtain ⟨stays, same, -⟩ := t.apply_of_finished done
    rcases retained with live | within
    · exact absurd live (by simp [stays])
    · exact .inr (same ▸ within)

/-! ## Lookups after each operation of the store -/

namespace MemorySessionStore

variable {s : MemorySessionStore} {p q : Ptr} {sd : SessionData}

@[simp] theorem heap_setSession : (s.setSession p sd).heap = Function.update s.heap p (some sd) := rfl

@[simp] theorem heap_add : (s.add p sd).heap = s.heap := rfl

@[simp] theorem get_setSession (r : RequestorToken) : (s.setSession p sd).get r = s.get r := rfl

@[simp] theorem clientGet_setSession (c : ClientToken) :
    (s.setSession p sd).clientGet c = s.clientGet c := rfl

theorem mem_of_get {r : RequestorToken} (hr : s.get r = some q) : r ∈ s.requestor :=
  AList.lookup_isSome.mp (by rw [show s.requestor.lookup r = some q from hr]; rfl)

theorem mem_of_clientGet {c : ClientToken} (hc : s.clientGet c = some q) : c ∈ s.client :=
  AList.lookup_isSome.mp (by rw [show s.client.lookup c = some q from hc]; rfl)

theorem get_add {r : RequestorToken} (fresh : sd.requestorToken ∉ s.requestor)
    (hr : s.get r = some q) : (s.add p sd).get r = some q :=
  (AList.lookup_insert_ne fun same : r = sd.requestorToken => fresh (same ▸ mem_of_get hr)).trans hr

theorem clientGet_add {c : ClientToken} (fresh : sd.clientToken ∉ s.client)
    (hc : s.clientGet c = some q) : (s.add p sd).clientGet c = some q :=
  (AList.lookup_insert_ne fun same : c = sd.clientToken => fresh (same ▸ mem_of_clientGet hc)).trans hc

theorem get_add_self : (s.add p sd).get sd.requestorToken = some p := AList.lookup_insert _

theorem clientGet_add_self : (s.add p sd).clientGet sd.clientToken = some p := AList.lookup_insert _

theorem deleteTokens_lookup {s s' : MemorySessionStore} {tokens : List RequestorToken}
    (h : s.deleteTokens tokens = some s') :
    (∀ r, r ∉ tokens → s'.get r = s.get r) ∧
      ∀ c, (∀ r ∈ tokens, ∀ p sd, s.get r = some p → s.heap p = some sd → sd.clientToken ≠ c) →
        s'.clientGet c = s.clientGet c := by
  induction tokens generalizing s with
  | nil =>
    cases h
    exact ⟨fun _ _ => rfl, fun _ _ => rfl⟩
  | cons token rest ih =>
    simp only [deleteTokens] at h
    split at h
    · cases h
    · rename_i p hp
      split at h
      · cases h
      · rename_i sd hsd
        obtain ⟨requestor, client⟩ := ih h
        refine ⟨fun r absent => ?_, fun c unheld => ?_⟩
        · rw [requestor r fun mem => absent (.tail _ mem)]
          exact AList.lookup_erase_ne fun same => absent (same ▸ .head _)
        · rw [client c fun r mem q sq hq hsq => unheld r (.tail _ mem) q sq (lookup_of_lookup_erase hq) hsq]
          exact AList.lookup_erase_ne (unheld token (.head _) p sd hp hsd).symm

end MemorySessionStore

theorem IndexInvariant.deleteTokens_keeps {s s' : MemorySessionStore} (inv : IndexInvariant s)
    {tokens : List RequestorToken} (h : s.deleteTokens tokens = some s') {p : Ptr} {sd : SessionData}
    (indexed : s.get sd.requestorToken = some p) (stored : s.heap p = some sd)
    (absent : sd.requestorToken ∉ tokens) :
    s'.get sd.requestorToken = some p ∧ s'.clientGet sd.clientToken = some p := by
  obtain ⟨requestor, client⟩ := MemorySessionStore.deleteTokens_lookup h
  obtain ⟨_, stored', -, hc⟩ := inv.requestor _ p indexed
  obtain rfl := Option.some.inj (stored.symm.trans stored')
  refine ⟨(requestor _ absent).trans indexed, (client _ fun r mem q sq hq hsq same => ?_).trans hc⟩
  obtain ⟨sq', hsq', hr', hc'⟩ := inv.requestor r q hq
  obtain rfl := Option.some.inj (hsq.symm.trans hsq')
  obtain rfl : q = p := Option.some.inj (hc'.symm.trans (same ▸ hc))
  obtain rfl := Option.some.inj (stored.symm.trans hsq)
  exact absent (hr' ▸ mem)

/-! ## The sweep task -/

inductive SweepPhase
  | idle
  | checking (toCheck : List (RequestorToken × Ptr)) (expired : List RequestorToken)

structure SweepState where
  now : Time
  store : MemorySessionStore
  phase : SweepPhase

namespace SweepState

def initial (start : Time) : SweepState := ⟨start, .empty, .idle⟩

def snapshot (w : SweepState) : SweepState := { w with phase := .checking w.store.snapshot [] }

def check (w : SweepState) : Option SweepState :=
  match w.phase with
  | .checking ((token, p) :: rest) expired =>
    match w.store.heap p with
    | none => some { w with phase := .checking rest expired }
    | some sd =>
      let checked := sd.deleteExpiredCheck w.now
      some { w with store := w.store.setSession p checked.1,
                    phase := .checking rest (if checked.2.1 then expired ++ [token] else expired) }
  | _ => none

/-- The deletion block that ends a pass; `none` also for a nil dereference. -/
def delete (w : SweepState) : Option SweepState :=
  match w.phase with
  | .checking [] expired =>
    (w.store.deleteTokens expired).map fun store => { w with store := store, phase := .idle }
  | _ => none

theorem check_cases {w w' : SweepState} (h : w.check = some w') :
    ∃ token p rest expired, w.phase = .checking ((token, p) :: rest) expired ∧
      ((w.store.heap p = none ∧ w' = { w with phase := .checking rest expired }) ∨
        ∃ sd, w.store.heap p = some sd ∧
          w' = { w with store := w.store.setSession p (sd.deleteExpiredCheck w.now).1,
                        phase := .checking rest
                          (if (sd.deleteExpiredCheck w.now).2.1 then expired ++ [token] else expired) }) := by
  unfold check at h
  split at h
  · rename_i token p rest expired phase
    split at h
    · exact ⟨token, p, rest, expired, phase, .inl ⟨‹_›, (Option.some.inj h).symm⟩⟩
    · exact ⟨token, p, rest, expired, phase, .inr ⟨_, ‹_›, (Option.some.inj h).symm⟩⟩
  · cases h

theorem delete_cases {w w' : SweepState} (h : w.delete = some w') :
    ∃ expired store, w.phase = .checking [] expired ∧ w.store.deleteTokens expired = some store ∧
      w' = { w with store := store, phase := .idle } := by
  unfold delete at h
  split at h
  · obtain ⟨store, deleted, rfl⟩ := Option.map_eq_some'.mp h
    exact ⟨_, store, ‹_›, deleted, rfl⟩
  · cases h

end SweepState

/-- The steps of the store under the sweep, each atomic: the clock moves forward; the sweep task
takes its snapshot when idle, checks the next session of its snapshot, or runs its deletion
block; `newSession` adds a session at a fresh pointer under fresh tokens; a handler runs a
transition on a session it holds, whatever the times the transition carries, also on one
already deleted. The reads `get` and `clientGet` change nothing. -/
inductive SweepStep : SweepState → SweepState → Prop
  | tick {w : SweepState} {later : Time} : w.now ≤ later → SweepStep w { w with now := later }
  | snapshot {w : SweepState} : w.phase = .idle → SweepStep w w.snapshot
  | check {w w' : SweepState} : w.check = some w' → SweepStep w w'
  | delete {w w' : SweepState} : w.delete = some w' → SweepStep w w'
  | add {w : SweepState} {p : Ptr} {sd : SessionData} : w.store.heap p = none →
      sd.requestorToken ∉ w.store.requestor → sd.clientToken ∉ w.store.client →
      SweepStep w { w with store := (w.store.setSession p sd).add p sd }
  | transaction {w : SweepState} {p : Ptr} {sd : SessionData} (t : Transition) :
      w.store.heap p = some sd → SweepStep w { w with store := w.store.setSession p (t.apply sd).1 }

inductive SweepReachable : SweepState → Prop
  | initial (start : Time) : SweepReachable (.initial start)
  | step {w w' : SweepState} : SweepReachable w → SweepStep w w' → SweepReachable w'

theorem SweepReachable.run {w w' : SweepState} (reachable : SweepReachable w)
    (run : Relation.ReflTransGen SweepStep w w') : SweepReachable w' := by
  induction run with
  | refl => exact reachable
  | tail _ step ih => exact ih.step step

/-! ## The invariant -/

def RetainedIndexed (s : MemorySessionStore) (now : Time) : Prop :=
  ∀ p sd, s.heap p = some sd → sd.Retained now →
    s.get sd.requestorToken = some p ∧ s.clientGet sd.clientToken = some p

/-- What a pass knows while it checks: the tokens it found expired and those it has still to
check are distinct; the entries it has still to check are the index's; and every token it
found expired is indexed at a finished session past its lifetime. -/
structure PassInvariant (s : MemorySessionStore) (now : Time) (toCheck : List (RequestorToken × Ptr))
    (expired : List RequestorToken) : Prop where
  nodup : (expired ++ toCheck.map Prod.fst).Nodup
  pending : ∀ r p, (r, p) ∈ toCheck → s.get r = some p
  found : ∀ r ∈ expired, ∃ p sd, s.get r = some p ∧ s.heap p = some sd ∧
    sd.status.finished = true ∧ sd.lastActive + maxSessionLifetime < now

structure SweepInvariant (w : SweepState) : Prop where
  index : IndexInvariant w.store
  retained : RetainedIndexed w.store w.now
  pass : ∀ toCheck expired, w.phase = .checking toCheck expired →
    PassInvariant w.store w.now toCheck expired

namespace RetainedIndexed

variable {s : MemorySessionStore} {now : Time}

theorem later (retained : RetainedIndexed s now) {later : Time} (before : now ≤ later) :
    RetainedIndexed s later :=
  fun p sd stored kept => retained p sd stored (kept.earlier before)

theorem update (retained : RetainedIndexed s now) {p : Ptr} {sd : SessionData}
    (stored : s.heap p = some sd) (t : Transition) :
    RetainedIndexed (s.setSession p (t.apply sd).1) now := by
  intro q sq stored' kept
  by_cases same : q = p
  · subst same
    obtain rfl : (t.apply sd).1 = sq := by simpa using stored'
    have tokens := t.apply_tokens sd
    simp only [SessionData.tokens, Prod.mk.injEq] at tokens
    rw [tokens.1, tokens.2]
    exact retained q sd stored (t.retained_of_apply kept)
  · exact retained q sq (by simpa [same] using stored') kept

theorem add (retained : RetainedIndexed s now) {p : Ptr} {sd : SessionData} (fresh : s.heap p = none)
    (freshR : sd.requestorToken ∉ s.requestor) (freshC : sd.clientToken ∉ s.client) :
    RetainedIndexed ((s.setSession p sd).add p sd) now := by
  intro q sq stored kept
  by_cases same : q = p
  · subst same
    obtain rfl : sd = sq := by simpa using stored
    exact ⟨MemorySessionStore.get_add_self, MemorySessionStore.clientGet_add_self⟩
  · obtain ⟨hr, hc⟩ := retained q sq (by simpa [same] using stored) kept
    exact ⟨MemorySessionStore.get_add freshR hr, MemorySessionStore.clientGet_add freshC hc⟩

end RetainedIndexed

namespace PassInvariant

variable {s : MemorySessionStore} {now : Time} {toCheck : List (RequestorToken × Ptr)}
  {expired : List RequestorToken}

theorem snapshot (s : MemorySessionStore) (now : Time) : PassInvariant s now s.snapshot [] where
  nodup := by
    rw [List.nil_append, MemorySessionStore.snapshot_tokens]
    exact AList.keys_nodup _
  pending r p mem := by
    obtain ⟨⟨r', p'⟩, entry, same⟩ := List.mem_map.mp mem
    cases same
    exact AList.mem_lookup_iff.mpr entry
  found _ mem := by cases mem

theorem later (pass : PassInvariant s now toCheck expired) {later : Time} (before : now ≤ later) :
    PassInvariant s later toCheck expired :=
  { pass with
    found := fun r mem => by
      obtain ⟨p, sd, hr, stored, done, past⟩ := pass.found r mem
      exact ⟨p, sd, hr, stored, done, lt_of_lt_of_le past before⟩ }

theorem update (pass : PassInvariant s now toCheck expired) {p : Ptr} {sd : SessionData}
    (stored : s.heap p = some sd) (t : Transition) :
    PassInvariant (s.setSession p (t.apply sd).1) now toCheck expired :=
  { pass with
    found := fun r mem => by
      obtain ⟨q, sq, hr, stored', done, past⟩ := pass.found r mem
      by_cases same : q = p
      · subst same
        obtain rfl := Option.some.inj (stored'.symm.trans stored)
        obtain ⟨done', active, -⟩ := t.apply_of_finished done
        exact ⟨q, _, hr, by simp, done', active ▸ past⟩
      · exact ⟨q, sq, hr, by simp [same, stored'], done, past⟩ }

theorem add (pass : PassInvariant s now toCheck expired) {p : Ptr} {sd : SessionData}
    (fresh : s.heap p = none) (freshR : sd.requestorToken ∉ s.requestor) :
    PassInvariant ((s.setSession p sd).add p sd) now toCheck expired :=
  { pass with
    pending := fun r q mem => MemorySessionStore.get_add freshR (pass.pending r q mem)
    found := fun r mem => by
      obtain ⟨q, sq, hr, stored, done, past⟩ := pass.found r mem
      have other : q ≠ p := by rintro rfl; simp [fresh] at stored
      exact ⟨q, sq, MemorySessionStore.get_add freshR hr, by simp [other, stored], done, past⟩ }

theorem skip {token : RequestorToken} {p : Ptr} {rest : List (RequestorToken × Ptr)}
    (pass : PassInvariant s now ((token, p) :: rest) expired) : PassInvariant s now rest expired where
  nodup := pass.nodup.sublist ((List.sublist_cons_self _ _).append_left _)
  pending r q mem := pass.pending r q (.tail _ mem)
  found := pass.found

theorem check {token : RequestorToken} {p : Ptr} {rest : List (RequestorToken × Ptr)} {sd : SessionData}
    (pass : PassInvariant s now ((token, p) :: rest) expired) (stored : s.heap p = some sd) :
    PassInvariant (s.setSession p (sd.deleteExpiredCheck now).1) now rest
      (if (sd.deleteExpiredCheck now).2.1 then expired ++ [token] else expired) := by
  have updated := pass.update stored (.op (.deleteExpiredCheck now))
  split
  · rename_i flagged
    obtain ⟨done, past, same⟩ := SessionData.deleteExpiredCheck_flagged flagged
    refine ⟨by simpa using updated.nodup, fun r q mem => updated.pending r q (.tail _ mem), fun r mem => ?_⟩
    rcases List.mem_append.mp mem with old | new
    · exact updated.found r old
    · obtain rfl := List.mem_singleton.mp new
      exact ⟨p, sd, updated.pending _ _ (.head _), by simp [same], done, past⟩
  · exact updated.skip

theorem not_found (pass : PassInvariant s now toCheck expired) {p : Ptr} {sd : SessionData}
    (indexed : s.get sd.requestorToken = some p) (stored : s.heap p = some sd) (kept : sd.Retained now) :
    sd.requestorToken ∉ expired := fun mem => by
  obtain ⟨q, sq, hr, stored', done, past⟩ := pass.found _ mem
  obtain rfl : q = p := Option.some.inj (hr.symm.trans indexed)
  obtain rfl := Option.some.inj (stored.symm.trans stored')
  rcases kept with live | within
  · exact absurd live (by simp [done])
  · exact not_lt.mpr within past

end PassInvariant

theorem RetainedIndexed.deleteTokens {s s' : MemorySessionStore} {now : Time}
    {expired : List RequestorToken} (retained : RetainedIndexed s now) (inv : IndexInvariant s)
    (pass : PassInvariant s now [] expired) (h : s.deleteTokens expired = some s') :
    RetainedIndexed s' now := by
  intro p sd stored kept
  rw [(MemorySessionStore.deleteTokens_sub h).1] at stored
  have indexed := (retained p sd stored kept).1
  exact inv.deleteTokens_keeps h indexed stored (pass.not_found indexed stored kept)

theorem sweepInvariant_initial (start : Time) : SweepInvariant (.initial start) where
  index := indexInvariant_reachable .empty
  retained _ _ stored := by cases stored
  pass _ _ phase := by cases phase

theorem SweepInvariant.deleteTokens_ok {w : SweepState} (inv : SweepInvariant w)
    {expired : List RequestorToken} (phase : w.phase = .checking [] expired) :
    ∃ store, w.store.deleteTokens expired = some store ∧ IndexInvariant store := by
  have pass := inv.pass _ _ phase
  exact MemorySessionStore.deleteTokens_spec inv.index (by simpa using pass.nodup) fun r mem => by
    obtain ⟨p, -, indexed, -⟩ := pass.found r mem
    exact MemorySessionStore.mem_of_get indexed

theorem SweepInvariant.step {w w' : SweepState} (inv : SweepInvariant w) (step : SweepStep w w') :
    SweepInvariant w' := by
  cases step with
  | tick before =>
    exact ⟨inv.index, inv.retained.later before, fun _ _ phase => (inv.pass _ _ phase).later before⟩
  | snapshot _ =>
    refine ⟨inv.index, inv.retained, fun _ _ phase => ?_⟩
    obtain ⟨rfl, rfl⟩ := SweepPhase.checking.inj phase
    exact .snapshot _ _
  | check h =>
    obtain ⟨token, p, rest, expired, phase, ⟨-, rfl⟩ | ⟨sd, stored, rfl⟩⟩ := SweepState.check_cases h
    · refine ⟨inv.index, inv.retained, fun _ _ phase' => ?_⟩
      obtain ⟨rfl, rfl⟩ := SweepPhase.checking.inj phase'
      exact (inv.pass _ _ phase).skip
    · refine ⟨inv.index.of_sameTokens (SameTokens.update stored (Transition.apply_tokens
        (.op (.deleteExpiredCheck w.now)) sd)), inv.retained.update stored (.op (.deleteExpiredCheck w.now)),
        fun _ _ phase' => ?_⟩
      obtain ⟨rfl, rfl⟩ := SweepPhase.checking.inj phase'
      exact (inv.pass _ _ phase).check stored
  | delete h =>
    obtain ⟨expired, store, phase, deleted, rfl⟩ := SweepState.delete_cases h
    obtain ⟨store', deleted', index⟩ := inv.deleteTokens_ok phase
    obtain rfl := Option.some.inj (deleted.symm.trans deleted')
    exact ⟨index, inv.retained.deleteTokens inv.index (inv.pass _ _ phase) deleted,
      fun _ _ phase' => by cases phase'⟩
  | add fresh freshR freshC =>
    exact ⟨inv.index.add fresh freshR freshC, inv.retained.add fresh freshR freshC,
      fun _ _ phase => (inv.pass _ _ phase).add fresh freshR⟩
  | transaction t stored =>
    exact ⟨inv.index.of_sameTokens (SameTokens.update stored (t.apply_tokens _)),
      inv.retained.update stored t, fun _ _ phase => (inv.pass _ _ phase).update stored t⟩

theorem sweepInvariant_reachable {w : SweepState} (reachable : SweepReachable w) : SweepInvariant w := by
  induction reachable with
  | initial start => exact sweepInvariant_initial start
  | step _ step ih => exact ih.step step

/-! ## What a step removes and keeps -/

theorem SweepStep.index_cases {w w' : SweepState} (step : SweepStep w w') :
    w.delete = some w' ∨ (∀ r p, w.store.get r = some p → w'.store.get r = some p) ∧
      ∀ c p, w.store.clientGet c = some p → w'.store.clientGet c = some p := by
  cases step with
  | delete h => exact .inl h
  | check h =>
    obtain ⟨-, -, -, -, -, ⟨-, rfl⟩ | ⟨-, -, rfl⟩⟩ := SweepState.check_cases h <;>
      exact .inr ⟨fun _ _ => id, fun _ _ => id⟩
  | add _ freshR freshC =>
    exact .inr ⟨fun _ _ => MemorySessionStore.get_add freshR, fun _ _ => MemorySessionStore.clientGet_add freshC⟩
  | tick | snapshot | transaction => exact .inr ⟨fun _ _ => id, fun _ _ => id⟩

theorem SweepInvariant.removed {w w' : SweepState} (inv : SweepInvariant w) (step : SweepStep w w')
    {p : Ptr} {sd : SessionData} (stored : w.store.heap p = some sd)
    (indexed : w.store.get sd.requestorToken = some p)
    (removed : w'.store.get sd.requestorToken ≠ some p ∨ w'.store.clientGet sd.clientToken ≠ some p) :
    (∃ expired, w.phase = .checking [] expired ∧ sd.requestorToken ∈ expired ∧ w.delete = some w') ∧
      sd.status.finished = true ∧ sd.lastActive + maxSessionLifetime < w.now := by
  rcases step.index_cases with deleted | ⟨keepR, keepC⟩
  · obtain ⟨expired, store, phase, h, rfl⟩ := SweepState.delete_cases deleted
    have found : sd.requestorToken ∈ expired := by
      by_contra absent
      have kept := inv.index.deleteTokens_keeps h indexed stored absent
      exact removed.elim (· kept.1) (· kept.2)
    obtain ⟨q, sq, hr, stored', done, past⟩ := (inv.pass _ _ phase).found _ found
    obtain rfl : q = p := Option.some.inj (hr.symm.trans indexed)
    obtain rfl := Option.some.inj (stored.symm.trans stored')
    exact ⟨⟨expired, phase, found, deleted⟩, done, past⟩
  · obtain ⟨_, stored', -, hc⟩ := inv.index.requestor _ p indexed
    obtain rfl := Option.some.inj (stored.symm.trans stored')
    exact (removed.elim (· (keepR _ _ indexed)) (· (keepC _ _ hc))).elim

theorem SweepStep.keeps_finished {w w' : SweepState} (step : SweepStep w w') {p : Ptr}
    {sd : SessionData} (stored : w.store.heap p = some sd) (done : sd.status.finished = true) :
    ∃ sd', w'.store.heap p = some sd' ∧ sd'.status.finished = true ∧
      sd'.lastActive = sd.lastActive ∧ sd'.tokens = sd.tokens := by
  have update : ∀ {q : Ptr} {sq : SessionData} (t : Transition), w.store.heap q = some sq →
      ∃ sd', (w.store.setSession q (t.apply sq).1).heap p = some sd' ∧ sd'.status.finished = true ∧
        sd'.lastActive = sd.lastActive ∧ sd'.tokens = sd.tokens := fun {q} sq t stored' => by
    by_cases same : p = q
    · subst same
      obtain rfl := Option.some.inj (stored.symm.trans stored')
      exact ⟨_, by simp, t.apply_of_finished done⟩
    · exact ⟨sd, by simp [same, stored], done, rfl, rfl⟩
  cases step with
  | check h =>
    obtain ⟨_, q, _, _, _, ⟨_, rfl⟩ | ⟨sq, stored', rfl⟩⟩ := SweepState.check_cases h
    · exact ⟨sd, stored, done, rfl, rfl⟩
    · exact update (.op (.deleteExpiredCheck w.now)) stored'
  | delete h =>
    obtain ⟨_, store, _, deleted, rfl⟩ := SweepState.delete_cases h
    exact ⟨sd, (MemorySessionStore.deleteTokens_sub deleted).1 ▸ stored, done, rfl, rfl⟩
  | @add q _ fresh =>
    have other : p ≠ q := by rintro rfl; simp [fresh] at stored
    exact ⟨sd, by simp [other, stored], done, rfl, rfl⟩
  | transaction t stored' => exact update t stored'
  | tick | snapshot => exact ⟨sd, stored, done, rfl, rfl⟩

theorem keeps_finished_run {w w' : SweepState} (run : Relation.ReflTransGen SweepStep w w') {p : Ptr}
    {sd : SessionData} (stored : w.store.heap p = some sd) (done : sd.status.finished = true) :
    ∃ sd', w'.store.heap p = some sd' ∧ sd'.status.finished = true ∧
      sd'.lastActive = sd.lastActive ∧ sd'.tokens = sd.tokens := by
  induction run with
  | refl => exact ⟨sd, stored, done, rfl, rfl⟩
  | tail _ step ih =>
    obtain ⟨sd', stored', done', active, tokens⟩ := ih
    obtain ⟨sd'', stored'', done'', active', tokens'⟩ := step.keeps_finished stored' done'
    exact ⟨sd'', stored'', done'', active'.trans active, tokens'.trans tokens⟩

theorem SweepState.check_timeout {w w' : SweepState} (h : w.check = some w') {p : Ptr}
    {sd sd' : SessionData} (stored : w.store.heap p = some sd) (live : sd.status.finished = false)
    (stored' : w'.store.heap p = some sd') (timedOut : sd'.status = .timeout) :
    sd'.lastActive = w.now ∧ sd'.tokens = sd.tokens := by
  have done : sd'.status.finished = true := by rw [timedOut]; rfl
  obtain ⟨_, q, _, _, _, ⟨_, rfl⟩ | ⟨sq, checked, rfl⟩⟩ := check_cases h
  · obtain rfl := Option.some.inj (stored.symm.trans stored')
    exact absurd live (by simp [done])
  · by_cases same : p = q
    · subst same
      obtain rfl := Option.some.inj (stored.symm.trans checked)
      obtain rfl : (sd.deleteExpiredCheck w.now).1 = sd' := by simpa using stored'
      exact ⟨SessionData.deleteExpiredCheck_lastActive live done,
        Transition.apply_tokens (.op (.deleteExpiredCheck w.now)) sd⟩
    · obtain rfl : sd = sd' := by simpa [same, stored] using stored'
      exact absurd live (by simp [done])

def sweepWithDoneSession (err : ServerError) : SweepState :=
  ⟨3 + maxSessionLifetime, storeWithDoneSession err, .idle⟩

theorem sweepWithDoneSession_reachable (err : ServerError) : SweepReachable (sweepWithDoneSession err) :=
  have added : SweepReachable
      ⟨0, (MemorySessionStore.empty.setSession 0 legacyCallbackSession).add 0 legacyCallbackSession, .idle⟩ :=
    .step (.initial 0) (.add rfl (by simp [SweepState.initial, MemorySessionStore.empty])
      (by simp [SweepState.initial, MemorySessionStore.empty]))
  have connected := added.step (@SweepStep.transaction _ 0 _ (clientConnects err) rfl)
  have responded := connected.step (@SweepStep.transaction _ 0 _ (clientResponds err) rfl)
  have later : (0 : Time) ≤ 3 + maxSessionLifetime := by decide
  responded.step (.tick later)

/-! ## Retention -/

/-- Along every run of the memory store under the sweep, with passes checking at the times of a
clock that never goes back: a session leaves the index only in a deletion block, under a token
its pass's checks found, at a finished session with `LastActive + maxSessionLifetime` before
the clock, so a live session is always indexed under both tokens; and a session that a check
at time `t₀` times out is retrievable through `get` and `clientGet` in every later state up to
time `t₀ + maxSessionLifetime`. -/
theorem expiry_sweep_retention {w : SweepState} (reachable : SweepReachable w) :
    (∀ p sd, w.store.heap p = some sd → sd.status.finished = false →
      w.store.get sd.requestorToken = some p ∧ w.store.clientGet sd.clientToken = some p) ∧
    (∀ toCheck expired, w.phase = .checking toCheck expired → ∀ r ∈ expired, ∃ p sd,
      w.store.get r = some p ∧ w.store.heap p = some sd ∧ sd.status.finished = true ∧
        sd.lastActive + maxSessionLifetime < w.now) ∧
    (∀ w', SweepStep w w' → ∀ p sd, w.store.heap p = some sd → w.store.get sd.requestorToken = some p →
      (w'.store.get sd.requestorToken ≠ some p ∨ w'.store.clientGet sd.clientToken ≠ some p) →
      (∃ expired, w.phase = .checking [] expired ∧ sd.requestorToken ∈ expired ∧ w.delete = some w') ∧
        sd.status.finished = true ∧ sd.lastActive + maxSessionLifetime < w.now) ∧
    ∀ w', w.check = some w' → ∀ p sd sd', w.store.heap p = some sd → sd.status.finished = false →
      w'.store.heap p = some sd' → sd'.status = .timeout →
      ∀ w'', Relation.ReflTransGen SweepStep w' w'' → w''.now ≤ w.now + maxSessionLifetime →
        w''.store.get sd.requestorToken = some p ∧ w''.store.clientGet sd.clientToken = some p := by
  have inv := sweepInvariant_reachable reachable
  refine ⟨fun p sd stored live => inv.retained p sd stored (.inl live),
    fun _ _ phase => (inv.pass _ _ phase).found, fun _ step _ _ => inv.removed step,
    fun w' h p sd sd' stored live stored' timedOut w'' run within => ?_⟩
  obtain ⟨active, tokens⟩ := SweepState.check_timeout h stored live stored' timedOut
  obtain ⟨sd'', stored'', done, active', tokens'⟩ :=
    keeps_finished_run run stored' (by rw [timedOut]; rfl)
  have retained := (sweepInvariant_reachable ((reachable.step (.check h)).run run)).retained p sd''
    stored'' (.inr (by rwa [active', active]))
  have same := tokens'.trans tokens
  simp only [SessionData.tokens, Prod.mk.injEq] at same
  rwa [same.1, same.2] at retained

theorem expiry_sweep_retention_done :
    let w := sweepWithDoneSession ⟨"", 0, ""⟩
    SweepReachable w ∧
      (∀ p sd, w.store.heap p = some sd → sd.status.finished = false →
        w.store.get sd.requestorToken = some p ∧ w.store.clientGet sd.clientToken = some p) ∧
      (∀ toCheck expired, w.phase = .checking toCheck expired → ∀ r ∈ expired, ∃ p sd,
        w.store.get r = some p ∧ w.store.heap p = some sd ∧ sd.status.finished = true ∧
          sd.lastActive + maxSessionLifetime < w.now) ∧
      (∀ w', SweepStep w w' → ∀ p sd, w.store.heap p = some sd → w.store.get sd.requestorToken = some p →
        (w'.store.get sd.requestorToken ≠ some p ∨ w'.store.clientGet sd.clientToken ≠ some p) →
        (∃ expired, w.phase = .checking [] expired ∧ sd.requestorToken ∈ expired ∧ w.delete = some w') ∧
          sd.status.finished = true ∧ sd.lastActive + maxSessionLifetime < w.now) ∧
      ∀ w', w.check = some w' → ∀ p sd sd', w.store.heap p = some sd → sd.status.finished = false →
        w'.store.heap p = some sd' → sd'.status = .timeout →
        ∀ w'', Relation.ReflTransGen SweepStep w' w'' → w''.now ≤ w.now + maxSessionLifetime →
          w''.store.get sd.requestorToken = some p ∧ w''.store.clientGet sd.clientToken = some p :=
  ⟨sweepWithDoneSession_reachable _, expiry_sweep_retention (sweepWithDoneSession_reachable _)⟩

/-! ## The deletion block -/

/-- The one sweep task never dereferences nil: the deletion block at the end of each of its
passes finds every token it deletes. -/
theorem sweep_task_never_dereferences_nil {w : SweepState} (reachable : SweepReachable w)
    {expired : List RequestorToken} (phase : w.phase = .checking [] expired) :
    ∃ w', w.delete = some w' := by
  obtain ⟨store, deleted, -⟩ := (sweepInvariant_reachable reachable).deleteTokens_ok phase
  exact ⟨{ w with store := store, phase := .idle }, by simp [SweepState.delete, phase, deleted]⟩

theorem sweep_task_never_dereferences_nil_done :
    ∃ w, SweepReachable w ∧ w.phase = .checking [] ["requestorToken"] ∧ ∃ w', w.delete = some w' :=
  have snapshot := (sweepWithDoneSession_reachable ⟨"", 0, ""⟩).step (.snapshot rfl)
  have checked := snapshot.step (.check rfl)
  ⟨_, checked, rfl, sweep_task_never_dereferences_nil checked rfl⟩

/-! ## What a pass does -/

namespace MemorySessionStore

theorem checkExpired_untouched (heap : Ptr → Option SessionData) (now : Time)
    {toCheck : List (RequestorToken × Ptr)} {p : Ptr} (absent : p ∉ toCheck.map Prod.snd) :
    (checkExpired heap now toCheck).1 p = heap p := by
  induction toCheck generalizing heap with
  | nil => rfl
  | cons entry rest ih =>
    obtain ⟨token, q⟩ := entry
    simp only [List.map_cons, List.mem_cons, not_or] at absent
    cases stored : heap q with
    | none =>
      simp only [checkExpired, stored]
      exact ih heap absent.2
    | some sd =>
      simp only [checkExpired, stored]
      rw [ih _ absent.2, Function.update_noteq absent.1]

theorem checkExpired_entry (heap : Ptr → Option SessionData) (now : Time)
    {toCheck : List (RequestorToken × Ptr)} (distinct : (toCheck.map Prod.snd).Nodup)
    {r : RequestorToken} {p : Ptr} {sd : SessionData} (mem : (r, p) ∈ toCheck)
    (stored : heap p = some sd) :
    (checkExpired heap now toCheck).1 p = some (sd.deleteExpiredCheck now).1 ∧
      ((sd.deleteExpiredCheck now).2.1 = true → r ∈ (checkExpired heap now toCheck).2.1) := by
  induction toCheck generalizing heap with
  | nil => cases mem
  | cons entry rest ih =>
    obtain ⟨token, q⟩ := entry
    simp only [List.map_cons, List.nodup_cons] at distinct
    rcases List.mem_cons.mp mem with same | later
    · obtain ⟨rfl, rfl⟩ := Prod.mk.inj same
      simp only [checkExpired, stored]
      refine ⟨by rw [checkExpired_untouched _ _ distinct.1, Function.update_same], fun flagged => ?_⟩
      rw [if_pos flagged]
      exact .head _
    · have other : p ≠ q := fun same => distinct.1 (same ▸ List.mem_map_of_mem Prod.snd later)
      cases hq : heap q with
      | none =>
        simp only [checkExpired, hq]
        exact ih heap distinct.2 later stored
      | some sq =>
        simp only [checkExpired, hq]
        obtain ⟨checked, flagged⟩ := ih (Function.update heap q (some (sq.deleteExpiredCheck now).1))
          distinct.2 later (by rw [Function.update_noteq other, stored])
        refine ⟨checked, fun h => ?_⟩
        split
        · exact .tail _ (flagged h)
        · exact flagged h

theorem deleteTokens_removes {s s' : MemorySessionStore} {tokens : List RequestorToken}
    (h : s.deleteTokens tokens = some s') {r : RequestorToken} (mem : r ∈ tokens) {p : Ptr}
    {sd : SessionData} (indexed : s.get r = some p) (stored : s.heap p = some sd) :
    s'.get r = none ∧ s'.clientGet sd.clientToken = none := by
  induction tokens generalizing s with
  | nil => cases mem
  | cons token rest ih =>
    simp only [deleteTokens] at h
    split at h
    · cases h
    · rename_i q hq
      split at h
      · cases h
      · rename_i sq hsq
        by_cases same : r = token
        · subst same
          obtain rfl := Option.some.inj (hq.symm.trans indexed)
          obtain rfl := Option.some.inj (hsq.symm.trans stored)
          obtain ⟨-, shrinkR, shrinkC⟩ := deleteTokens_sub h
          refine ⟨Option.eq_none_iff_forall_not_mem.mpr fun x found => ?_,
            Option.eq_none_iff_forall_not_mem.mpr fun x found => ?_⟩
          · simpa using shrinkR _ x found
          · simpa using shrinkC _ x found
        · exact ih h (List.mem_of_ne_of_mem same mem)
            ((AList.lookup_erase_ne same).trans indexed) stored

end MemorySessionStore

theorem IndexInvariant.snapshot_pointers {s : MemorySessionStore} (inv : IndexInvariant s) :
    (s.snapshot.map Prod.snd).Nodup := by
  have entries : s.snapshot.Nodup :=
    List.Nodup.of_map Prod.fst (s.snapshot_tokens ▸ AList.keys_nodup _)
  refine entries.map_on fun x mem y mem' same => ?_
  have lookup : ∀ e ∈ s.snapshot, s.get e.1 = some e.2 := fun e mem => by
    obtain ⟨⟨r, p⟩, entry, rfl⟩ := List.mem_map.mp mem
    exact AList.mem_lookup_iff.mpr entry
  obtain ⟨sd, stored, hr, -⟩ := inv.requestor _ _ (lookup x mem)
  obtain ⟨sd', stored', hr', -⟩ := inv.requestor _ _ (same ▸ lookup y mem')
  obtain rfl := Option.some.inj (stored.symm.trans stored')
  exact Prod.ext (hr.symm.trans hr') same

/-- A pass of `deleteExpired` at time `now` on a consistent store removes both index entries of
every finished session whose `LastActive + maxSessionLifetime` is before `now`, and times out
every live session whose timeout has passed, leaving it active at `now`. -/
theorem deleteExpired_sweeps {s : MemorySessionStore} (inv : IndexInvariant s) (now : Time) :
    ∃ s' posted, s.deleteExpired now = some (s', posted) ∧
      ∀ p sd, s.get sd.requestorToken = some p → s.heap p = some sd →
        (sd.status.finished = true → sd.lastActive + maxSessionLifetime < now →
          s'.get sd.requestorToken = none ∧ s'.clientGet sd.clientToken = none) ∧
        (sd.status.finished = false → sd.lastActive + sd.memoryTimeout < now →
          ∃ sd', s'.heap p = some sd' ∧ sd'.status = .timeout ∧ sd'.lastActive = now) := by
  obtain ⟨s', posted, h, -⟩ := MemorySessionStore.deleteExpired_spec inv now
  refine ⟨s', posted, h, fun p sd indexed stored => ?_⟩
  have mem : (sd.requestorToken, p) ∈ s.snapshot :=
    List.mem_map_of_mem (fun e => (e.1, e.2)) (AList.mem_lookup_iff.mp indexed)
  obtain ⟨checked, flagged⟩ :=
    MemorySessionStore.checkExpired_entry s.heap now inv.snapshot_pointers mem stored
  simp only [MemorySessionStore.deleteExpired, Option.map_eq_some', Prod.mk.injEq] at h
  obtain ⟨s'', deleted, rfl, -⟩ := h
  refine ⟨fun done past => ?_, fun live expired => ?_⟩
  · have settled : ¬(sd.status = .initialized ∧ sd.rrequest.base.clientTimeout ≠ 0) := fun h => by
      simp [h.1, ServerStatus.finished] at done
    have flag : (sd.deleteExpiredCheck now).2.1 = true := by
      simp [SessionData.deleteExpiredCheck, SessionData.memoryTimeout_of_not_clientTimeout settled,
        past, done]
    rw [(SessionData.deleteExpiredCheck_flagged flag).2.2] at checked
    exact MemorySessionStore.deleteTokens_removes deleted (flagged flag) indexed checked
  · have timedOut : (sd.deleteExpiredCheck now).1.status = .timeout := by
      rw [SessionData.deleteExpiredCheck_status, if_pos ⟨expired, live⟩]
    refine ⟨_, (MemorySessionStore.deleteTokens_sub deleted).1 ▸ checked, timedOut,
      SessionData.deleteExpiredCheck_lastActive live (by rw [timedOut]; rfl)⟩

theorem deleteExpired_sweeps_done :
    let s := storeWithDoneSession ⟨"", 0, ""⟩
    IndexInvariant s ∧ ∃ s' posted, s.deleteExpired (3 + maxSessionLifetime) = some (s', posted) ∧
      ∀ p sd, s.get sd.requestorToken = some p → s.heap p = some sd →
        (sd.status.finished = true → sd.lastActive + maxSessionLifetime < 3 + maxSessionLifetime →
          s'.get sd.requestorToken = none ∧ s'.clientGet sd.clientToken = none) ∧
        (sd.status.finished = false → sd.lastActive + sd.memoryTimeout < 3 + maxSessionLifetime →
          ∃ sd', s'.heap p = some sd' ∧ sd'.status = .timeout ∧ sd'.lastActive = 3 + maxSessionLifetime) :=
  have inv := indexInvariant_reachable (storeWithDoneSession_reachable ⟨"", 0, ""⟩)
  ⟨inv, deleteExpired_sweeps inv _⟩

end IrmaServer
