import IrmaServer.Session.Invariants
import Mathlib.Data.List.AList

/-!
# The memory session store

`memorySessionStore` (`sessions.go`): two maps from the requestor and client tokens to
session pointers, with the sessions they point to. A Go map is an association list here;
its iteration order is the list's order. The main result is the representation invariant:
both tokens of a live session lead to the same session, and the expiry sweep removes the
two index entries of a session together.
-/

namespace IrmaServer

abbrev Ptr := Nat

/-- The store and the sessions its pointers reference. -/
structure MemorySessionStore where
  requestor : AList fun _ : RequestorToken => Ptr
  client : AList fun _ : ClientToken => Ptr
  heap : Ptr → Option SessionData

namespace MemorySessionStore

def empty : MemorySessionStore := ⟨∅, ∅, fun _ => none⟩

def get (s : MemorySessionStore) (token : RequestorToken) : Option Ptr := s.requestor.lookup token

def clientGet (s : MemorySessionStore) (token : ClientToken) : Option Ptr := s.client.lookup token

def add (s : MemorySessionStore) (p : Ptr) (sd : SessionData) : MemorySessionStore :=
  { s with requestor := s.requestor.insert sd.requestorToken p,
           client := s.client.insert sd.clientToken p }

def setSession (s : MemorySessionStore) (p : Ptr) (sd : SessionData) : MemorySessionStore :=
  { s with heap := Function.update s.heap p (some sd) }

def snapshot (s : MemorySessionStore) : List (RequestorToken × Ptr) :=
  s.requestor.entries.map fun e => (e.1, e.2)

/-- The check loop of `deleteExpired` over `toCheck`: the sessions afterwards, the tokens
found expired (in iteration order) and the callbacks posted. -/
def checkExpired (heap : Ptr → Option SessionData) (now : Time) :
    List (RequestorToken × Ptr) → (Ptr → Option SessionData) × List RequestorToken × List ResultCallback
  | [] => (heap, [], [])
  | (token, p) :: rest =>
    match heap p with
    | none => checkExpired heap now rest
    | some sd =>
      let (sd', expired, posted) := sd.deleteExpiredCheck now
      let (heap', expired', posted') := checkExpired (Function.update heap p (some sd')) now rest
      (heap', if expired then token :: expired' else expired', posted ++ posted')

/-- The deletion block of `deleteExpired`, under the write lock. `none` is the nil dereference
of `session.sse` for a token that is no longer in `s.requestor`. -/
def deleteTokens (s : MemorySessionStore) : List RequestorToken → Option MemorySessionStore
  | [] => some s
  | token :: rest =>
    match s.requestor.lookup token with
    | none => none
    | some p =>
      match s.heap p with
      | none => none
      | some sd =>
        deleteTokens { s with client := s.client.erase sd.clientToken,
                              requestor := s.requestor.erase token } rest

def deleteExpired (s : MemorySessionStore) (now : Time) :
    Option (MemorySessionStore × List ResultCallback) :=
  let checked := checkExpired s.heap now s.snapshot
  ({ s with heap := checked.1 }.deleteTokens checked.2.1).map fun s' => (s', checked.2.2)

end MemorySessionStore

/-- The operations on the memory store: `newSession` allocating a session at a fresh pointer
and adding it, a pass of `deleteExpired`, a session transaction running one transition, and
the reads and lock operations, which leave the modelled state as it is (`update` is a no-op,
`lock` and `unlock` take the session mutex, `stop` closes event channels). -/
inductive MemoryStep : MemorySessionStore → MemorySessionStore → Prop
  | add {s : MemorySessionStore} {p : Ptr} {sd : SessionData} :
      s.heap p = none → sd.requestorToken ∉ s.requestor → sd.clientToken ∉ s.client →
      MemoryStep s ((s.setSession p sd).add p sd)
  | deleteExpired {s s' : MemorySessionStore} {now : Time} {posted : List ResultCallback} :
      s.deleteExpired now = some (s', posted) → MemoryStep s s'
  | transaction {s : MemorySessionStore} {token : ClientToken} {p : Ptr} {sd : SessionData}
      (t : Transition) : s.clientGet token = some p → s.heap p = some sd →
      MemoryStep s (s.setSession p (t.apply sd).1)
  | get {s : MemorySessionStore} (token : RequestorToken) : MemoryStep s s
  | clientGet {s : MemorySessionStore} (token : ClientToken) : MemoryStep s s
  | lock {s : MemorySessionStore} (p : Ptr) : MemoryStep s s
  | unlock {s : MemorySessionStore} (p : Ptr) : MemoryStep s s
  | update {s : MemorySessionStore} (p : Ptr) : MemoryStep s s
  | stop {s : MemorySessionStore} : MemoryStep s s

inductive MemoryReachable : MemorySessionStore → Prop
  | empty : MemoryReachable .empty
  | step {s s' : MemorySessionStore} : MemoryReachable s → MemoryStep s s' → MemoryReachable s'

namespace MemorySessionStore

theorem setSession_setSession (s : MemorySessionStore) (p : Ptr) (sd sd' : SessionData) :
    (s.setSession p sd).setSession p sd' = s.setSession p sd' := by
  simp [setSession]

theorem setSession_of_stored {s : MemorySessionStore} {p : Ptr} {sd : SessionData}
    (stored : s.heap p = some sd) : s.setSession p sd = s := by
  simp [setSession, ← stored]

end MemorySessionStore

theorem MemoryReachable.transitions {s : MemorySessionStore} {token : ClientToken} {p : Ptr}
    {sd : SessionData} (reachable : MemoryReachable s) (found : s.clientGet token = some p)
    (stored : s.heap p = some sd) (ts : List Transition) :
    MemoryReachable (s.setSession p (Transition.run ts sd).1) := by
  induction ts generalizing s sd with
  | nil => rwa [Transition.run_nil, MemorySessionStore.setSession_of_stored stored]
  | cons t ts ih =>
    have written := ih (reachable.step (.transaction t found stored)) found (Function.update_same _ _ _)
    rwa [MemorySessionStore.setSession_setSession] at written

/-- Both tokens of every indexed session lead to the same session. -/
structure IndexInvariant (s : MemorySessionStore) : Prop where
  requestor : ∀ r p, s.requestor.lookup r = some p →
    ∃ sd, s.heap p = some sd ∧ sd.requestorToken = r ∧ s.client.lookup sd.clientToken = some p
  client : ∀ c p, s.client.lookup c = some p →
    ∃ sd, s.heap p = some sd ∧ sd.clientToken = c ∧ s.requestor.lookup sd.requestorToken = some p


def SessionData.tokens (sd : SessionData) : RequestorToken × ClientToken :=
  (sd.requestorToken, sd.clientToken)

theorem Transition.apply_tokens (t : Transition) (sd : SessionData) :
    (t.apply sd).1.tokens = sd.tokens := by
  rcases t.apply_effect sd with effect | ⟨c, h⟩
  · obtain ⟨hr, hc, -⟩ := effect.fixed
    simp [SessionData.tokens, hr, hc]
  · rw [h]
    rfl

def SameTokens (heap heap' : Ptr → Option SessionData) : Prop :=
  ∀ p, (heap' p).map SessionData.tokens = (heap p).map SessionData.tokens

theorem SameTokens.refl (heap : Ptr → Option SessionData) : SameTokens heap heap := fun _ => rfl

theorem SameTokens.trans {h₁ h₂ h₃ : Ptr → Option SessionData} (h₁₂ : SameTokens h₁ h₂)
    (h₂₃ : SameTokens h₂ h₃) : SameTokens h₁ h₃ := fun p => (h₂₃ p).trans (h₁₂ p)

theorem SameTokens.update {heap : Ptr → Option SessionData} {p : Ptr} {sd sd' : SessionData}
    (hp : heap p = some sd) (h : sd'.tokens = sd.tokens) :
    SameTokens heap (Function.update heap p (some sd')) := by
  intro q
  by_cases hq : q = p
  · subst hq
    simp [hp, h]
  · simp [hq]

theorem SameTokens.lookup {heap heap' : Ptr → Option SessionData} (same : SameTokens heap heap')
    {p : Ptr} {sd : SessionData} (hp : heap p = some sd) : ∃ sd', heap' p = some sd' ∧ sd'.tokens = sd.tokens :=
  Option.map_eq_some'.mp (by rw [same p, hp]; rfl)

namespace IndexInvariant

variable {s : MemorySessionStore}

theorem of_sameTokens (inv : IndexInvariant s) {heap : Ptr → Option SessionData}
    (same : SameTokens s.heap heap) : IndexInvariant { s with heap := heap } where
  requestor r p h := by
    obtain ⟨sd, hp, hr, hc⟩ := inv.requestor r p h
    obtain ⟨sd', hp', htokens⟩ := same.lookup hp
    simp only [SessionData.tokens, Prod.mk.injEq] at htokens
    exact ⟨sd', hp', htokens.1.trans hr, htokens.2 ▸ hc⟩
  client c p h := by
    obtain ⟨sd, hp, hc, hr⟩ := inv.client c p h
    obtain ⟨sd', hp', htokens⟩ := same.lookup hp
    simp only [SessionData.tokens, Prod.mk.injEq] at htokens
    exact ⟨sd', hp', htokens.2.trans hc, htokens.1 ▸ hr⟩

theorem erase (inv : IndexInvariant s) {r : RequestorToken} {p : Ptr} {sd : SessionData}
    (hr : s.requestor.lookup r = some p) (hp : s.heap p = some sd) :
    IndexInvariant { s with client := s.client.erase sd.clientToken, requestor := s.requestor.erase r } := by
  obtain ⟨sd₀, hp₀, hr₀, hc₀⟩ := inv.requestor r p hr
  rw [hp] at hp₀
  cases hp₀
  constructor
  · intro r' p' h'
    have hne : r' ≠ r := by rintro rfl; simp at h'
    rw [AList.lookup_erase_ne hne] at h'
    obtain ⟨sd', hp', hr', hc'⟩ := inv.requestor r' p' h'
    refine ⟨sd', hp', hr', ?_⟩
    have hcne : sd'.clientToken ≠ sd.clientToken := by
      intro hcc
      rw [hcc, hc₀] at hc'
      cases hc'
      rw [hp] at hp'
      cases hp'
      exact hne (hr'.symm.trans hr₀)
    rwa [AList.lookup_erase_ne hcne]
  · intro c' p' h'
    have hne : c' ≠ sd.clientToken := by rintro rfl; simp at h'
    rw [AList.lookup_erase_ne hne] at h'
    obtain ⟨sd', hp', hc', hr'⟩ := inv.client c' p' h'
    refine ⟨sd', hp', hc', ?_⟩
    have hrne : sd'.requestorToken ≠ r := by
      intro hrr
      rw [hrr, hr] at hr'
      cases hr'
      rw [hp] at hp'
      cases hp'
      exact hne hc'.symm
    rwa [AList.lookup_erase_ne hrne]

theorem add (inv : IndexInvariant s) {p : Ptr} {sd : SessionData} (fresh : s.heap p = none)
    (hr : sd.requestorToken ∉ s.requestor) (hc : sd.clientToken ∉ s.client) :
    IndexInvariant ((s.setSession p sd).add p sd) := by
  have old : ∀ q sd', s.heap q = some sd' → q ≠ p := by
    rintro q sd' hq rfl
    simp [fresh] at hq
  constructor
  · intro r q h
    simp only [MemorySessionStore.add, MemorySessionStore.setSession] at h ⊢
    by_cases hrr : r = sd.requestorToken
    · subst hrr
      rw [AList.lookup_insert] at h
      cases h
      simp
    · rw [AList.lookup_insert_ne hrr] at h
      obtain ⟨sd', hq, hr', hc'⟩ := inv.requestor r q h
      have hcne : sd'.clientToken ≠ sd.clientToken := by
        rintro hcc
        exact hc (AList.lookup_isSome.mp (by rw [← hcc, hc']; rfl))
      refine ⟨sd', by simp [old q sd' hq, hq], hr', ?_⟩
      rw [AList.lookup_insert_ne hcne, hc']
  · intro c q h
    simp only [MemorySessionStore.add, MemorySessionStore.setSession] at h ⊢
    by_cases hcc : c = sd.clientToken
    · subst hcc
      rw [AList.lookup_insert] at h
      cases h
      simp
    · rw [AList.lookup_insert_ne hcc] at h
      obtain ⟨sd', hq, hc', hr'⟩ := inv.client c q h
      have hrne : sd'.requestorToken ≠ sd.requestorToken := by
        rintro hrr
        exact hr (AList.lookup_isSome.mp (by rw [← hrr, hr']; rfl))
      refine ⟨sd', by simp [old q sd' hq, hq], hc', ?_⟩
      rw [AList.lookup_insert_ne hrne, hr']

end IndexInvariant

namespace MemorySessionStore

theorem checkExpired_spec (heap : Ptr → Option SessionData) (now : Time)
    (toCheck : List (RequestorToken × Ptr)) :
    SameTokens heap (checkExpired heap now toCheck).1 ∧
      (checkExpired heap now toCheck).2.1.Sublist (toCheck.map Prod.fst) := by
  induction toCheck generalizing heap with
  | nil => exact ⟨SameTokens.refl heap, List.Sublist.slnil⟩
  | cons entry rest ih =>
    obtain ⟨token, p⟩ := entry
    cases hp : heap p with
    | none =>
      simp only [checkExpired, hp, List.map_cons]
      exact ⟨(ih heap).1, (ih heap).2.cons _⟩
    | some sd =>
      have tokens := Transition.apply_tokens (.op (.deleteExpiredCheck now)) sd
      obtain ⟨same, sub⟩ := ih (Function.update heap p (some (sd.deleteExpiredCheck now).1))
      simp only [checkExpired, hp, List.map_cons]
      refine ⟨(SameTokens.update hp tokens).trans same, ?_⟩
      split
      · exact sub.cons₂ _
      · exact sub.cons _

theorem lookup_of_lookup_erase {l : AList fun _ : String => Ptr} {a b : String} {p : Ptr}
    (h : (l.erase a).lookup b = some p) : l.lookup b = some p := by
  by_cases hb : b = a
  · subst hb
    simp at h
  · rwa [AList.lookup_erase_ne hb] at h

theorem deleteTokens_sub {s s' : MemorySessionStore} {tokens : List RequestorToken}
    (h : s.deleteTokens tokens = some s') :
    s'.heap = s.heap ∧ (∀ r p, s'.requestor.lookup r = some p → s.requestor.lookup r = some p) ∧
      (∀ c p, s'.client.lookup c = some p → s.client.lookup c = some p) := by
  induction tokens generalizing s with
  | nil =>
    cases h
    exact ⟨rfl, fun _ _ => id, fun _ _ => id⟩
  | cons token rest ih =>
    simp only [deleteTokens] at h
    split at h
    · cases h
    · split at h
      · cases h
      · obtain ⟨heap, hr, hc⟩ := ih h
        exact ⟨heap, fun r p hl => lookup_of_lookup_erase (hr r p hl),
          fun c p hl => lookup_of_lookup_erase (hc c p hl)⟩

theorem deleteTokens_spec {s : MemorySessionStore} (inv : IndexInvariant s)
    {tokens : List RequestorToken} (nodup : tokens.Nodup) (indexed : ∀ r ∈ tokens, r ∈ s.requestor) :
    ∃ s', s.deleteTokens tokens = some s' ∧ IndexInvariant s' := by
  induction tokens generalizing s with
  | nil => exact ⟨s, rfl, inv⟩
  | cons token rest ih =>
    obtain ⟨p, hp⟩ := Option.isSome_iff_exists.mp (AList.lookup_isSome.mpr (indexed token (.head _)))
    obtain ⟨sd, hsd, -, -⟩ := inv.requestor token p hp
    have rest_indexed : ∀ r ∈ rest, r ∈ s.requestor.erase token := fun r hr =>
      AList.mem_erase.mpr ⟨fun h => (List.nodup_cons.mp nodup).1 (h ▸ hr), indexed r (.tail _ hr)⟩
    obtain ⟨s', hs', inv'⟩ := ih (inv.erase hp hsd) (List.nodup_cons.mp nodup).2 rest_indexed
    exact ⟨s', by simp [deleteTokens, hp, hsd, hs'], inv'⟩

theorem snapshot_tokens (s : MemorySessionStore) : s.snapshot.map Prod.fst = s.requestor.keys := by
  simp only [snapshot, List.map_map]
  rfl

theorem deleteExpired_spec {s : MemorySessionStore} (inv : IndexInvariant s) (now : Time) :
    ∃ s' posted, s.deleteExpired now = some (s', posted) ∧ IndexInvariant s' := by
  obtain ⟨same, sub⟩ := checkExpired_spec s.heap now s.snapshot
  rw [snapshot_tokens] at sub
  obtain ⟨s', hs', inv'⟩ := deleteTokens_spec (inv.of_sameTokens same)
    (sub.nodup (AList.keys_nodup _)) (fun r hr => AList.mem_keys.mpr (sub.subset hr))
  exact ⟨s', (checkExpired s.heap now s.snapshot).2.2, by simp only [deleteExpired, hs', Option.map_some'], inv'⟩

theorem deleteExpired_sub {s s' : MemorySessionStore} {now : Time} {posted : List ResultCallback}
    (h : s.deleteExpired now = some (s', posted)) :
    SameTokens s.heap s'.heap ∧ (∀ r p, s'.requestor.lookup r = some p → s.requestor.lookup r = some p) ∧
      (∀ c p, s'.client.lookup c = some p → s.client.lookup c = some p) := by
  simp only [deleteExpired, Option.map_eq_some', Prod.mk.injEq] at h
  obtain ⟨s'', hs'', rfl, -⟩ := h
  obtain ⟨heap, hr, hc⟩ := deleteTokens_sub hs''
  exact ⟨heap ▸ (checkExpired_spec s.heap now s.snapshot).1, hr, hc⟩

end MemorySessionStore

theorem IndexInvariant.step {s s' : MemorySessionStore} (inv : IndexInvariant s)
    (step : MemoryStep s s') : IndexInvariant s' := by
  cases step with
  | add fresh hr hc => exact inv.add fresh hr hc
  | deleteExpired h =>
    obtain ⟨s'', posted, h', inv'⟩ := MemorySessionStore.deleteExpired_spec inv _
    rw [h] at h'
    cases h'
    exact inv'
  | transaction t _ hp => exact inv.of_sameTokens (SameTokens.update hp (t.apply_tokens _))
  | _ => exact inv

theorem indexInvariant_reachable {s : MemorySessionStore} (reachable : MemoryReachable s) :
    IndexInvariant s := by
  induction reachable with
  | empty => exact ⟨by simp [MemorySessionStore.empty], by simp [MemorySessionStore.empty]⟩
  | step _ step ih => exact ih.step step

theorem IndexInvariant.get_eq_none_iff {s : MemorySessionStore} (inv : IndexInvariant s) {p : Ptr}
    {sd : SessionData} (stored : s.heap p = some sd)
    (onlyR : ∀ q, s.get sd.requestorToken = some q → q = p)
    (onlyC : ∀ q, s.clientGet sd.clientToken = some q → q = p) :
    s.get sd.requestorToken = none ↔ s.clientGet sd.clientToken = none := by
  constructor
  · intro unindexed
    cases hc : s.clientGet sd.clientToken with
    | none => rfl
    | some q =>
      obtain rfl := onlyC q hc
      obtain ⟨sd', hp', -, hr⟩ := inv.client _ q hc
      obtain rfl : sd = sd' := Option.some.inj (stored.symm.trans hp')
      simp [MemorySessionStore.get, hr] at unindexed
  · intro unindexed
    cases hr : s.get sd.requestorToken with
    | none => rfl
    | some q =>
      obtain rfl := onlyR q hr
      obtain ⟨sd', hp', -, hc⟩ := inv.requestor _ q hr
      obtain rfl : sd = sd' := Option.some.inj (stored.symm.trans hp')
      simp [MemorySessionStore.clientGet, hc] at unindexed

/-- In every reachable state of the memory store both tokens of an indexed session lead to
that session, so `get` and `clientGet` agree on it, and a pass of `deleteExpired` removes the
two index entries of a session together. -/
theorem memory_store_index {s : MemorySessionStore} (reachable : MemoryReachable s) :
    IndexInvariant s ∧
    ∀ now s' posted, s.deleteExpired now = some (s', posted) →
      ∀ r p sd, s.get r = some p → s.heap p = some sd →
        (s'.get r = none ↔ s'.clientGet sd.clientToken = none) := by
  have inv := indexInvariant_reachable reachable
  refine ⟨inv, fun now s' posted h r p sd hr hp => ?_⟩
  obtain ⟨same, shrinkR, shrinkC⟩ := MemorySessionStore.deleteExpired_sub h
  obtain ⟨sd₀, hp₀, rfl, hc⟩ := inv.requestor r p hr
  obtain rfl : sd₀ = sd := Option.some.inj (hp₀.symm.trans hp)
  obtain ⟨sd', hp', htokens⟩ := same.lookup hp
  simp only [SessionData.tokens, Prod.mk.injEq] at htokens
  rw [← htokens.1, ← htokens.2]
  refine (inv.step (.deleteExpired h)).get_eq_none_iff hp' (fun q hq => ?_) (fun q hq => ?_)
  · exact Option.some.inj ((shrinkR _ q (htokens.1 ▸ hq)).symm.trans hr)
  · exact Option.some.inj ((shrinkC _ q (htokens.2 ▸ hq)).symm.trans hc)

theorem memory_store_index_one_session :
    MemoryReachable ((MemorySessionStore.empty.setSession 0 legacyCallbackSession).add 0 legacyCallbackSession) ∧
      IndexInvariant ((MemorySessionStore.empty.setSession 0 legacyCallbackSession).add 0 legacyCallbackSession) :=
  have reachable := MemoryReachable.step .empty (.add rfl (by simp [MemorySessionStore.empty])
    (by simp [MemorySessionStore.empty]))
  ⟨reachable, (memory_store_index reachable).1⟩

end IrmaServer
