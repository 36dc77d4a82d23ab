import IrmaServer.Json.Session

/-!
# The Redis store keeps JSON

`redisSessionStore` writes `json.Marshal` of a session under `session:<C>` and reads it back
through `UnmarshalJSON` at every load (`RedisWireStore`). `Store.Redis` models the same store
with the session values themselves under the keys (`RedisSessionStore`). The JSON store refines
the store of values that holds each session as it comes back from JSON
(`SessionData.afterJSON`: its request no longer legacy): along every run of `add`s, of
`newSession` and of `update`, each of a session whose action names the type of its request, every
load through `get` or `clientGet` returns, at every time, what that store of values returns, and
a load never fails to decode.
-/

namespace IrmaServer

namespace RedisWireStore

def empty : RedisWireStore := ⟨∅, ∅⟩

def get (c : ExternalCodecs) (s : RedisWireStore) (token : RequestorToken) (now : Time) :
    Except String (Option (SessionData × List ResultCallback)) :=
  match s.tokens.lookup token with
  | none => .ok none
  | some v => if v.alive now then s.clientGet c v.value now else .ok none

end RedisWireStore

/-- A key of the JSON store and the same key of the store of values: written at the same time
with the same expiration, and the JSON decodes to the session there. -/
def WireEntry (c : ExternalCodecs) (j : RedisValue Json) (v : RedisValue SessionData) : Prop :=
  j.written = v.written ∧ j.expiration = v.expiration ∧ SessionData.unmarshalJSON c j.value = .ok v.value

/-- The JSON store holds the keys of the store of values: the same `token:<R>` keys, and under
each `session:<C>` the JSON of the session there. -/
structure WireAgrees (c : ExternalCodecs) (w : RedisWireStore) (s : RedisSessionStore) : Prop where
  tokens : w.tokens = s.tokens
  sessions : ∀ token, Option.Rel (WireEntry c) (w.sessions.lookup token) (s.sessions.lookup token)

namespace WireAgrees

variable {c : ExternalCodecs} {w : RedisWireStore} {s : RedisSessionStore}

theorem empty (c : ExternalCodecs) : WireAgrees c .empty .empty := ⟨rfl, fun _ => .none⟩

theorem add (agrees : WireAgrees c w s) {sd : SessionData} {now : Time} {w' : RedisWireStore}
    (matching : rrequestType sd.action = some sd.rrequest.concreteType) (fits : sd.IntsFit)
    (added : w.add c sd now = .ok w') : WireAgrees c w' (s.add sd.afterJSON now) := by
  simp only [RedisWireStore.add, Except.bind_eq_ok, Except.pure_eq_ok] at added
  obtain ⟨j, encoded, rfl⟩ := added
  refine ⟨by rw [agrees.tokens]; rfl, fun token => ?_⟩
  by_cases same : token = sd.clientToken
  · subst same
    simp only [RedisSessionStore.add, SessionData.afterJSON_clientToken, AList.lookup_insert]
    exact .some ⟨rfl, rfl, SessionData.unmarshalJSON_of_marshalJSON matching fits encoded⟩
  · simp only [RedisSessionStore.add, SessionData.afterJSON_clientToken, AList.lookup_insert_ne same]
    exact agrees.sessions token

theorem clientGet (agrees : WireAgrees c w s) (token : ClientToken) (now : Time) :
    w.clientGet c token now = .ok (s.clientGet token now) := by
  unfold RedisWireStore.clientGet RedisSessionStore.clientGet
  have entry := agrees.sessions token
  generalize w.sessions.lookup token = j at entry ⊢
  generalize s.sessions.lookup token = v at entry ⊢
  obtain ⟨⟨written, expiration, decoded⟩⟩ | _ := entry
  · simp only [Option.some_bind, RedisValue.alive, written, expiration]
    split <;> simp [decoded, Except.map]
  · rfl

theorem get (agrees : WireAgrees c w s) (token : RequestorToken) (now : Time) :
    w.get c token now = .ok (s.get token now) := by
  unfold RedisWireStore.get RedisSessionStore.get
  rw [agrees.tokens]
  cases s.tokens.lookup token with
  | none => rfl
  | some v =>
    simp only [Option.some_bind]
    split
    · exact agrees.clientGet v.value now
    · rfl

end WireAgrees

/-- The pairs of stores a run of `add`s produces, the JSON store and the store of values, from
empty stores: the store of values holds each session as JSON gives it back. Each `add` is of a
session whose action names the type of its request and whose `int`s are Go `int`s; an `add`
whose `json.Marshal` fails returns its error before writing and changes neither store. -/
inductive WireRun (c : ExternalCodecs) : RedisWireStore → RedisSessionStore → Prop
  | empty : WireRun c .empty .empty
  | add {w w' : RedisWireStore} {s : RedisSessionStore} {sd : SessionData} {now : Time} :
      WireRun c w s → rrequestType sd.action = some sd.rrequest.concreteType → sd.IntsFit →
      w.add c sd now = .ok w' → WireRun c w' (s.add sd.afterJSON now)

theorem WireRun.agrees {c : ExternalCodecs} {w : RedisWireStore} {s : RedisSessionStore}
    (run : WireRun c w s) : WireAgrees c w s := by
  induction run with
  | empty => exact .empty c
  | add _ matching fits added ih => exact ih.add matching fits added

/-- Along every run of `add`s of sessions whose action names the type of their request, the
Redis store that keeps JSON answers every load, by the requestor token through `get` or by the
client token through `clientGet`, at every time, with what the store of session values answers
when it holds each session as JSON gives it back: no load fails to decode, and each returns that
session after the same expiry check. -/
theorem redis_json_store_refines {c : ExternalCodecs} {w : RedisWireStore} {s : RedisSessionStore}
    (run : WireRun c w s) :
    ∀ (requestorToken : RequestorToken) (clientToken : ClientToken) (now : Time),
      w.get c requestorToken now = .ok (s.get requestorToken now) ∧
        w.clientGet c clientToken now = .ok (s.clientGet clientToken now) :=
  fun requestorToken clientToken now => ⟨run.agrees.get requestorToken now, run.agrees.clientGet clientToken now⟩

theorem redis_json_store_refines_legacy :
    ∃ w, WireRun legacyCallbackCodecs w (RedisSessionStore.empty.add legacyCallbackSession.afterJSON 0) ∧
      ∀ (requestorToken : RequestorToken) (clientToken : ClientToken) (now : Time),
        w.get legacyCallbackCodecs requestorToken now =
            .ok ((RedisSessionStore.empty.add legacyCallbackSession.afterJSON 0).get requestorToken now) ∧
          w.clientGet legacyCallbackCodecs clientToken now =
            .ok ((RedisSessionStore.empty.add legacyCallbackSession.afterJSON 0).clientGet clientToken now) := by
  have fits : legacyCallbackSession.IntsFit := ⟨by decide, fun _ mem => by cases mem⟩
  obtain ⟨w, added⟩ : ∃ w, RedisWireStore.empty.add legacyCallbackCodecs legacyCallbackSession 0 = .ok w :=
    ⟨_, rfl⟩
  have run : WireRun legacyCallbackCodecs w (RedisSessionStore.empty.add legacyCallbackSession.afterJSON 0) :=
    .add .empty rfl fits added
  exact ⟨w, run, redis_json_store_refines run⟩

end IrmaServer
