import IrmaServer.Json.Version
import IrmaServer.Store.Redis

/-!
# The JSON form of a session

`json.Marshal` of a `sessionData` and `sessionData.UnmarshalJSON`, over JSON values. The
struct's fields become the members of an object under their Go names, `Version` left out when
nil (`omitempty`). `UnmarshalJSON` decodes into a copy of the struct in which a raw `Rrequest`
member shadows the interface field, refuses a session without `Rrequest`, and picks the type
that `Rrequest` is decoded into from `Action`.

The JSON forms of the types defined outside src/ are parameters (`ExternalCodecs`), each taken
to read back what it writes, but for one loss: `irma.BaseRequest` keeps `Legacy()` in an
unexported field, which `encoding/json` neither writes nor reads. Whenever a session's action
names the type of its request, `json.Marshal` fails only where one of those codecs fails, and
decoding what it wrote gives the session back with every field, `KssProofs` included, except
that flag, which comes back false (`SessionData.afterJSON`). So the Redis store, which keeps
sessions as JSON, returns from `clientGet` a legacy session it stored as one that is not.
-/

namespace IrmaServer

theorem Except.bind_eq_ok {ε α β : Type} {x : Except ε α} {f : α → Except ε β} {b : β} :
    x >>= f = .ok b ↔ ∃ a, x = .ok a ∧ f a = .ok b := by
  cases x <;> simp [bind, Except.bind]

@[simp] theorem Except.ok_bind {ε α β : Type} {a : α} {f : α → Except ε β} :
    (Except.ok a : Except ε α) >>= f = f a := rfl

@[simp] theorem Except.map_ok {ε α β : Type} {a : α} {f : α → β} :
    f <$> (Except.ok a : Except ε α) = .ok (f a) := rfl

theorem Except.map_eq_ok {ε α β : Type} {x : Except ε α} {f : α → β} {b : β} :
    f <$> x = .ok b ↔ ∃ a, x = .ok a ∧ f a = b := by
  cases x <;> simp [Functor.map, Except.map]

@[simp] theorem Except.pure_eq_ok {ε α : Type} {a b : α} : (pure a : Except ε α) = .ok b ↔ a = b :=
  ⟨fun h => Except.ok.inj h, fun h => h ▸ rfl⟩

theorem Except.mapM_ok_iff {ε α β : Type} (f : α → Except ε β) :
    ∀ l : List α, (∃ bs, l.mapM f = .ok bs) ↔ ∀ a ∈ l, ∃ b, f a = .ok b
  | [] => ⟨fun _ _ mem => (by cases mem), fun _ => ⟨[], rfl⟩⟩
  | a :: l => by
    simp only [List.mapM_cons, Except.bind_eq_ok, Except.pure_eq_ok, List.forall_mem_cons,
      ← Except.mapM_ok_iff f l]
    exact ⟨fun ⟨_, b, hb, bs, hbs, _⟩ => ⟨⟨b, hb⟩, bs, hbs⟩, fun ⟨⟨b, hb⟩, bs, hbs⟩ => ⟨_, b, hb, bs, hbs, rfl⟩⟩

/-! ## JSON values -/

/-- A JSON value; a number keeps its literal. -/
inductive Json
  | null
  | bool (b : Bool)
  | number (literal : String)
  | string (s : String)
  | array (items : List Json)
  | object (members : List (String × Json))

mutual

/-- The compact text `encoding/json` writes for a value, which is also the text `json.Unmarshal`
hands an `UnmarshalJSON` method. -/
def Json.render : Json → String
  | .null => "null"
  | .bool b => if b then "true" else "false"
  | .number literal => literal
  | .string s => quote s
  | .array items => "[" ++ Json.renderItems items ++ "]"
  | .object members => "\x7b" ++ Json.renderMembers members ++ "\x7d"

def Json.renderItems : List Json → String
  | [] => ""
  | [j] => j.render
  | j :: js => j.render ++ "," ++ Json.renderItems js

def Json.renderMembers : List (String × Json) → String
  | [] => ""
  | [(key, j)] => quote key ++ ":" ++ j.render
  | (key, j) :: members => quote key ++ ":" ++ j.render ++ "," ++ Json.renderMembers members

end

/-- The value of the last member with the key: `json.Unmarshal` decodes the members in order, so
a later one overwrites an earlier one. Keys match exactly; the decoder's fallback to a
case-insensitive match is left out, since every key `json.Marshal` writes is a field's name. -/
def Json.member (members : List (String × Json)) (key : String) : Option Json :=
  members.foldl (fun found m => if m.1 = key then some m.2 else found) none

/-- The value `json.Unmarshal` decodes into a field: its member, or `null` when there is none.
Both leave a field of a value type at its zero value and set a pointer, slice or map to nil. -/
def Json.field (members : List (String × Json)) (key : String) : Json :=
  (Json.member members key).getD .null

/-- The members `json.Unmarshal` decodes into a struct of type `type`: `null` leaves the struct
as it is, and a value of another kind is an error. -/
def Json.structMembers (type : String) : Json → Except String (List (String × Json))
  | .object members => .ok members
  | .null => .ok []
  | _ => .error ("json: cannot unmarshal into Go value of type " ++ type)

/-! ## Codecs -/

/-- What `json.Marshal` writes for a value of a Go type, or its error, and what `json.Unmarshal`
makes of a JSON value. -/
structure Codec (α : Type) where
  encode : α → Except String Json
  decode : Json → Except String α

structure LawfulCodec (α : Type) extends Codec α where
  decode_encode : ∀ a j, encode a = .ok j → decode j = .ok a

def Codec.Encodes {α : Type} (c : Codec α) (a : α) : Prop := ∃ j, c.encode a = .ok j

def Codec.pointer {α : Type} (c : Codec α) : Codec (Option α) where
  encode
    | none => .ok .null
    | some a => c.encode a
  decode
    | .null => .ok none
    | j => some <$> c.decode j

theorem Codec.pointer_decode_encode {α : Type} (c : LawfulCodec α)
    (ne_null : ∀ a, c.encode a ≠ .ok .null) {o : Option α} {j : Json}
    (encoded : c.pointer.encode o = .ok j) : c.pointer.decode j = .ok o := by
  cases o with
  | none => cases encoded; rfl
  | some a =>
    have decoded := c.decode_encode a j encoded
    cases j <;> first
      | exact absurd encoded (ne_null a)
      | simp [Codec.pointer, decoded]

def stringCodec : Codec String where
  encode s := .ok (.string s)
  decode
    | .string s => .ok s
    | .null => .ok ""
    | _ => .error "json: cannot unmarshal into Go value of type string"

def boolCodec : Codec Bool where
  encode b := .ok (.bool b)
  decode
    | .bool b => .ok b
    | .null => .ok false
    | _ => .error "json: cannot unmarshal into Go value of type bool"

def intCodec : Codec Int where
  encode n := .ok (.number (toString n))
  decode
    | .number literal =>
      (atoi literal).mapError fun _ => "json: cannot unmarshal number " ++ literal ++ " into Go value of type int"
    | .null => .ok 0
    | _ => .error "json: cannot unmarshal into Go value of type int"

theorem intCodec_decode_toString {n : Int} (fits : IsInt64 n) :
    intCodec.decode (.number (toString n)) = .ok n := by
  simp [intCodec, atoi_toString fits, Except.mapError]

def ServerStatus.text : ServerStatus → String
  | .initialized => "INITIALIZED"
  | .pairing => "PAIRING"
  | .connected => "CONNECTED"
  | .cancelled => "CANCELLED"
  | .done => "DONE"
  | .timeout => "TIMEOUT"

def ServerStatus.ofText (s : String) : Option ServerStatus :=
  [ServerStatus.initialized, .pairing, .connected, .cancelled, .done, .timeout].find? (·.text = s)

@[simp] theorem ServerStatus.ofText_text (status : ServerStatus) :
    ServerStatus.ofText status.text = some status := by
  cases status <;> rfl

/-- `irma.ServerStatus`, a string. The model holds only the six statuses the server assigns, so
another text, the zero value `""` among them, is an error here. -/
def statusCodec : Codec ServerStatus where
  encode status := .ok (.string status.text)
  decode j := do
    let s ← stringCodec.decode j
    match ServerStatus.ofText s with
    | some status => .ok status
    | none => .error ("a server status the model does not hold: " ++ s)

def cacheStatusCodec : Codec (Option ServerStatus) where
  encode status := .ok (.string ((status.map ServerStatus.text).getD ""))
  decode j := do
    let s ← stringCodec.decode j
    if s = "" then .ok none
    else match ServerStatus.ofText s with
      | some status => .ok (some status)
      | none => .error ("a server status the model does not hold: " ++ s)

/-- `irma.ProtocolVersion` through its `MarshalJSON` and `UnmarshalJSON`: `json.Marshal` keeps
the JSON string `MarshalJSON` writes (`unmarshalString_quote`), and `json.Unmarshal` hands
`UnmarshalJSON` the text of the value. -/
def versionCodec : Codec ProtocolVersion where
  encode v := .ok (.string v.toString)
  decode j := (ProtocolVersion.unmarshalJSON j.render).mapError VersionError.message

def qrCodec : LawfulCodec Qr where
  encode qr := .ok (.object [("u", .string qr.url), ("irmaqr", .string qr.type)])
  decode j := do
    let members ← j.structMembers "irma.Qr"
    let url ← stringCodec.decode (Json.field members "u")
    let type ← stringCodec.decode (Json.field members "irmaqr")
    pure ⟨url, type⟩
  decode_encode qr j encoded := by
    cases encoded
    simp [Json.structMembers, Json.field, Json.member, stringCodec]

/-! ## Keyshare proofs -/

/-- `KssProofs`: `null` for a nil map, otherwise an object with a member for each scheme, in the
order of `KssProofs.schemes`, holding its proof as a pointer. `json.Unmarshal` makes a map of the
members of an object, a later member of a scheme overwriting an earlier one. -/
def kssProofsCodec (proof : Codec ProofP) : Codec (Option (KssProofs ProofP)) where
  encode
    | none => .ok .null
    | some m => .object <$> m.schemes.mapM fun scheme =>
        (scheme, ·) <$> proof.pointer.encode ((m.lookup scheme).getD none)
  decode
    | .null => .ok none
    | .object members =>
      some <$> members.foldlM (fun m member => (m.insert member.1 ·) <$> proof.pointer.decode member.2) ∅
    | _ => .error "json: cannot unmarshal into Go value of type map[irma.SchemeManagerIdentifier]*gabi.ProofP"

theorem KssProofs.mem_schemes {P : Type} {m : KssProofs P} {scheme : SchemeManagerIdentifier} :
    scheme ∈ m.schemes ↔ scheme ∈ m := by
  simp [KssProofs.schemes, Finmap.mem_keys]

theorem KssProofs.lookup_foldl_insert {P : Type} (f : SchemeManagerIdentifier → Option P)
    (scheme : SchemeManagerIdentifier) :
    ∀ (schemes : List SchemeManagerIdentifier) (m : KssProofs P),
      (schemes.foldl (fun m s => m.insert s (f s)) m).lookup scheme =
        if scheme ∈ schemes then some (f scheme) else m.lookup scheme
  | [], m => rfl
  | s :: schemes, m => by
    rw [List.foldl_cons, KssProofs.lookup_foldl_insert f scheme schemes]
    by_cases same : scheme = s
    · subst same
      simp
    · simp [same, Finmap.lookup_insert_of_ne _ same]

theorem KssProofs.foldl_schemes {P : Type} (m : KssProofs P) :
    m.schemes.foldl (fun acc s => acc.insert s ((m.lookup s).getD none)) ∅ = m := by
  refine Finmap.ext_lookup fun scheme => ?_
  rw [KssProofs.lookup_foldl_insert]
  by_cases mem : scheme ∈ m
  · obtain ⟨v, hv⟩ := Option.isSome_iff_exists.mp (Finmap.lookup_isSome.mpr mem)
    simp [KssProofs.mem_schemes.mpr mem, hv]
  · simp [mt KssProofs.mem_schemes.mp mem, Finmap.lookup_eq_none.mpr mem]

theorem kssProofsCodec_decode_members {c : LawfulCodec ProofP} (ne_null : ∀ p, c.encode p ≠ .ok .null)
    (f : SchemeManagerIdentifier → Option ProofP) :
    ∀ (schemes : List SchemeManagerIdentifier) (members : List (String × Json)) (acc : KssProofs ProofP),
      schemes.mapM (fun s => (s, ·) <$> c.pointer.encode (f s)) = .ok members →
        members.foldlM (fun m member => (m.insert member.1 ·) <$> c.pointer.decode member.2) acc =
          .ok (schemes.foldl (fun m s => m.insert s (f s)) acc)
  | [], _, _, encoded => by cases encoded; rfl
  | s :: schemes, _, acc, encoded => by
    simp only [List.mapM_cons, Except.bind_eq_ok, Except.map_eq_ok, Except.pure_eq_ok] at encoded
    obtain ⟨_, ⟨j, hj, rfl⟩, rest, hrest, rfl⟩ := encoded
    simp only [List.foldlM_cons, Codec.pointer_decode_encode c ne_null hj, Except.map_ok,
      Except.ok_bind, List.foldl_cons]
    exact kssProofsCodec_decode_members ne_null f schemes rest _ hrest

theorem kssProofsCodec_decode_encode (c : LawfulCodec ProofP) (ne_null : ∀ p, c.encode p ≠ .ok .null)
    {o : Option (KssProofs ProofP)} {j : Json} (encoded : (kssProofsCodec c.toCodec).encode o = .ok j) :
    (kssProofsCodec c.toCodec).decode j = .ok o := by
  cases o with
  | none => cases encoded; rfl
  | some m =>
    obtain ⟨members, hm, rfl⟩ := Except.map_eq_ok.mp encoded
    simp only [kssProofsCodec, kssProofsCodec_decode_members ne_null _ _ _ _ hm, KssProofs.foldl_schemes]
    rfl

theorem kssProofsCodec_encodes_iff (c : Codec ProofP) (o : Option (KssProofs ProofP)) :
    (∃ j, (kssProofsCodec c).encode o = .ok j) ↔
      ∀ m ∈ o, ∀ scheme proof, m.lookup scheme = some (some proof) → c.Encodes proof := by
  cases o with
  | none => simp [kssProofsCodec]
  | some m =>
    have each : ∀ s ∈ m.schemes, (∃ b, (s, ·) <$> c.pointer.encode ((m.lookup s).getD none) = .ok b) ↔
        ∀ proof, m.lookup s = some (some proof) → c.Encodes proof := fun s mem => by
      obtain ⟨v, hv⟩ := Option.isSome_iff_exists.mp (Finmap.lookup_isSome.mpr (KssProofs.mem_schemes.mp mem))
      cases v <;> simp [hv, Except.map_eq_ok, Codec.pointer, Codec.Encodes]
    simp only [kssProofsCodec, Option.mem_def, Option.some.injEq, forall_eq']
    constructor
    · rintro ⟨_, hj⟩ scheme proof kept
      obtain ⟨members, hm, _⟩ := Except.map_eq_ok.mp hj
      have mem : scheme ∈ m.schemes := KssProofs.mem_schemes.mpr (Finmap.lookup_isSome.mp (by simp [kept]))
      exact (each scheme mem).1 ((Except.mapM_ok_iff _ _).1 ⟨members, hm⟩ scheme mem) proof kept
    · intro all
      obtain ⟨members, hm⟩ := (Except.mapM_ok_iff _ _).2 fun s mem => (each s mem).2 (all s)
      exact ⟨_, Except.map_eq_ok.mpr ⟨members, hm, rfl⟩⟩

/-! ## The types defined outside src/ -/

inductive RequestorRequestType
  | identityProvider
  | serviceProvider
  | signatureRequestor
  deriving DecidableEq, Repr

def RequestorRequest.concreteType (r : RequestorRequest) : RequestorRequestType :=
  match r.request.type with
  | .disclosing => .serviceProvider
  | .signing _ => .signatureRequestor
  | .issuing _ => .identityProvider

/-- A requestor request as `json.Unmarshal` reads back what `json.Marshal` wrote for it:
`irma.BaseRequest` keeps `Legacy()` in its unexported field `legacy`, which `encoding/json`
neither writes nor reads, so it comes back false. -/
def RequestorRequest.afterJSON (r : RequestorRequest) : RequestorRequest :=
  { r with request.base.legacy := false }

def SessionData.afterJSON (sd : SessionData) : SessionData :=
  { sd with rrequest := sd.rrequest.afterJSON }

@[simp] theorem SessionData.afterJSON_clientToken (sd : SessionData) :
    sd.afterJSON.clientToken = sd.clientToken := rfl

/-- The JSON codecs of the types in a session whose JSON form is defined outside src/: the three
requestor request types, each reading back what it writes up to `RequestorRequest.afterJSON`;
and, each reading back what it writes, `irma.AttributeConDisCon` and `irma.SessionOptions` of
package `irma`, `server.SessionResult`, `gabi.ProofP`, `time.Time` as an instant, and `[]byte`
in base64, for the cached request and for the cached response that `Body` stands for. A
`SessionResult` and a `ProofP`, structs, are never written as `null`. -/
structure ExternalCodecs where
  request : RequestorRequestType → Codec RequestorRequest
  request_decode_encode :
    ∀ type r j, (request type).encode r = .ok j → (request type).decode j = .ok r.afterJSON
  result : LawfulCodec SessionResult
  result_ne_null : ∀ r, result.encode r ≠ .ok .null
  proofP : LawfulCodec ProofP
  proofP_ne_null : ∀ p, proofP.encode p ≠ .ok .null
  conDisCon : LawfulCodec AttributeConDisCon
  options : LawfulCodec SessionOptions
  time : LawfulCodec Time
  bytes : LawfulCodec Bytes
  body : LawfulCodec Body

/-! ## The response cache -/

namespace ResponseCache

def marshalJSON (c : ExternalCodecs) (rc : ResponseCache) : Except String Json := do
  let message ← c.bytes.encode rc.message
  let response ← c.body.encode rc.response
  pure (.object [("Endpoint", .string rc.endpoint), ("Message", message), ("Response", response),
    ("Status", .number (toString rc.status)),
    ("SessionStatus", .string ((rc.sessionStatus.map ServerStatus.text).getD ""))])

def unmarshalJSON (c : ExternalCodecs) (j : Json) : Except String ResponseCache := do
  let members ← j.structMembers "irmaserver.responseCache"
  let endpoint ← stringCodec.decode (Json.field members "Endpoint")
  let message ← c.bytes.decode (Json.field members "Message")
  let response ← c.body.decode (Json.field members "Response")
  let status ← intCodec.decode (Json.field members "Status")
  let sessionStatus ← cacheStatusCodec.decode (Json.field members "SessionStatus")
  pure ⟨endpoint, message, response, status, sessionStatus⟩

theorem unmarshalJSON_of_marshalJSON {c : ExternalCodecs} {rc : ResponseCache} {j : Json}
    (fits : IsInt64 rc.status) (encoded : rc.marshalJSON c = .ok j) :
    unmarshalJSON c j = .ok rc := by
  simp only [marshalJSON, Except.bind_eq_ok, Except.pure_eq_ok] at encoded
  obtain ⟨message, hm, response, hr, rfl⟩ := encoded
  have status : cacheStatusCodec.decode (.string ((rc.sessionStatus.map ServerStatus.text).getD "")) =
      .ok rc.sessionStatus := by
    cases h : rc.sessionStatus with
    | none => rfl
    | some status => cases status <;> rfl
  simp [unmarshalJSON, Json.structMembers, Json.field, Json.member, stringCodec,
    c.bytes.decode_encode _ _ hm, c.body.decode_encode _ _ hr, intCodec_decode_toString fits, status]

end ResponseCache

/-! ## The session -/

def rrequestType (action : Action) : Option RequestorRequestType :=
  if action = "issuing" then some .identityProvider
  else if action = "disclosing" then some .serviceProvider
  else if action = "signing" then some .signatureRequestor
  else none

namespace SessionData

def marshalJSON (c : ExternalCodecs) (sd : SessionData) : Except String Json := do
  let rrequest ← (c.request sd.rrequest.concreteType).encode sd.rrequest
  let responseCache ← sd.responseCache.marshalJSON c
  let lastActive ← c.time.encode sd.lastActive
  let result ← c.result.pointer.encode sd.result
  let kssProofs ← (kssProofsCodec c.proofP.toCodec).encode sd.kssProofs
  let next ← qrCodec.pointer.encode sd.next
  let implicitDisclosure ← c.conDisCon.encode sd.implicitDisclosure
  let options ← c.options.encode sd.options
  pure <| .object <|
    [("Action", .string sd.action), ("RequestorToken", .string sd.requestorToken),
      ("ClientToken", .string sd.clientToken)] ++
    sd.version.toList.map (fun v => ("Version", .string v.toString)) ++
    [("Rrequest", rrequest), ("LegacyCompatible", .bool sd.legacyCompatible),
      ("Status", .string sd.status.text), ("PrevStatus", .string sd.prevStatus.text),
      ("ResponseCache", responseCache), ("LastActive", lastActive), ("Result", result),
      ("KssProofs", kssProofs), ("Next", next), ("FrontendAuth", .string sd.frontendAuth),
      ("ImplicitDisclosure", implicitDisclosure), ("Options", options),
      ("ClientAuth", .string sd.clientAuth)]

/-- `sessionData.UnmarshalJSON`: the fields decoded into `temp`, whose raw `Rrequest` shadows the
interface field of the embedded `rawSession`; the check that `Rrequest` was there; then the type
switch on `Action` for the type `Rrequest` is decoded into. For an action outside the three,
`session.Rrequest` stays nil and `json.Unmarshal` refuses it. -/
def unmarshalJSON (c : ExternalCodecs) (j : Json) : Except String SessionData := do
  let members ← j.structMembers "irmaserver.sessionData"
  let action ← stringCodec.decode (Json.field members "Action")
  let requestorToken ← stringCodec.decode (Json.field members "RequestorToken")
  let clientToken ← stringCodec.decode (Json.field members "ClientToken")
  let version ← versionCodec.pointer.decode (Json.field members "Version")
  let legacyCompatible ← boolCodec.decode (Json.field members "LegacyCompatible")
  let status ← statusCodec.decode (Json.field members "Status")
  let prevStatus ← statusCodec.decode (Json.field members "PrevStatus")
  let responseCache ← ResponseCache.unmarshalJSON c (Json.field members "ResponseCache")
  let lastActive ← c.time.decode (Json.field members "LastActive")
  let result ← c.result.pointer.decode (Json.field members "Result")
  let kssProofs ← (kssProofsCodec c.proofP.toCodec).decode (Json.field members "KssProofs")
  let next ← qrCodec.pointer.decode (Json.field members "Next")
  let frontendAuth ← stringCodec.decode (Json.field members "FrontendAuth")
  let implicitDisclosure ← c.conDisCon.decode (Json.field members "ImplicitDisclosure")
  let options ← c.options.decode (Json.field members "Options")
  let clientAuth ← stringCodec.decode (Json.field members "ClientAuth")
  let some raw := Json.member members "Rrequest"
    | .error "temp.Rrequest == nil: [] \n"
  let some type := rrequestType action
    | .error "json: Unmarshal(nil)"
  let rrequest ← (c.request type).decode raw
  pure { action, requestorToken, clientToken, version, rrequest, legacyCompatible, status,
         prevStatus, responseCache, lastActive, result, kssProofs, next, frontendAuth,
         implicitDisclosure, options, clientAuth }

/-- The `int`s of a session are Go `int`s: its cached HTTP status and its version's numbers. -/
def IntsFit (sd : SessionData) : Prop :=
  IsInt64 sd.responseCache.status ∧ ∀ v ∈ sd.version, IsInt64 v.major ∧ IsInt64 v.minor

def ExternalEncodes (c : ExternalCodecs) (sd : SessionData) : Prop :=
  (c.request sd.rrequest.concreteType).Encodes sd.rrequest ∧
    c.bytes.Encodes sd.responseCache.message ∧ c.body.Encodes sd.responseCache.response ∧
    c.time.Encodes sd.lastActive ∧ (∀ r ∈ sd.result, c.result.Encodes r) ∧
    (∀ m ∈ sd.kssProofs, ∀ scheme proof, m.lookup scheme = some (some proof) → c.proofP.Encodes proof) ∧
    c.conDisCon.Encodes sd.implicitDisclosure ∧ c.options.Encodes sd.options

theorem marshalJSON_ok_iff (c : ExternalCodecs) (sd : SessionData) :
    (∃ j, sd.marshalJSON c = .ok j) ↔ sd.ExternalEncodes c := by
  have cache : (∃ j, sd.responseCache.marshalJSON c = .ok j) ↔
      c.bytes.Encodes sd.responseCache.message ∧ c.body.Encodes sd.responseCache.response := by
    simp only [ResponseCache.marshalJSON, Except.bind_eq_ok, Except.map_eq_ok, Codec.Encodes]
    exact ⟨fun ⟨_, m, hm, b, hb, _⟩ => ⟨⟨m, hm⟩, ⟨b, hb⟩⟩,
      fun ⟨⟨m, hm⟩, ⟨b, hb⟩⟩ => ⟨_, m, hm, b, hb, rfl⟩⟩
  have result : (∃ j, c.result.pointer.encode sd.result = .ok j) ↔
      ∀ r ∈ sd.result, c.result.Encodes r := by
    cases sd.result <;> simp [Codec.pointer, Codec.Encodes]
  have next : ∃ j, qrCodec.pointer.encode sd.next = .ok j := by
    cases sd.next <;> simp [Codec.pointer, qrCodec]
  have kss := kssProofsCodec_encodes_iff c.proofP.toCodec sd.kssProofs
  simp only [marshalJSON, Except.bind_eq_ok, Except.map_eq_ok, ExternalEncodes, Codec.Encodes] at kss ⊢
  constructor
  · rintro ⟨-, r, hr, rc, hrc, t, ht, res, hres, k, hk, -, -, i, hi, o, ho, -⟩
    obtain ⟨message, body⟩ := cache.1 ⟨rc, hrc⟩
    exact ⟨⟨r, hr⟩, message, body, ⟨t, ht⟩, result.1 ⟨res, hres⟩, kss.1 ⟨k, hk⟩, ⟨i, hi⟩, ⟨o, ho⟩⟩
  · rintro ⟨⟨r, hr⟩, message, body, ⟨t, ht⟩, hres, hk, ⟨i, hi⟩, ⟨o, ho⟩⟩
    obtain ⟨rc, hrc⟩ := cache.2 ⟨message, body⟩
    obtain ⟨res, hres⟩ := result.2 hres
    obtain ⟨k, hk⟩ := kss.2 hk
    obtain ⟨n, hn⟩ := next
    exact ⟨_, r, hr, rc, hrc, t, ht, res, hres, k, hk, n, hn, i, hi, o, ho, rfl⟩

theorem unmarshalJSON_object {c : ExternalCodecs} {members : List (String × Json)}
    {sd : SessionData} {raw : Json}
    (action : stringCodec.decode (Json.field members "Action") = .ok sd.action)
    (requestorToken : stringCodec.decode (Json.field members "RequestorToken") = .ok sd.requestorToken)
    (clientToken : stringCodec.decode (Json.field members "ClientToken") = .ok sd.clientToken)
    (version : versionCodec.pointer.decode (Json.field members "Version") = .ok sd.version)
    (legacyCompatible :
      boolCodec.decode (Json.field members "LegacyCompatible") = .ok sd.legacyCompatible)
    (status : statusCodec.decode (Json.field members "Status") = .ok sd.status)
    (prevStatus : statusCodec.decode (Json.field members "PrevStatus") = .ok sd.prevStatus)
    (responseCache :
      ResponseCache.unmarshalJSON c (Json.field members "ResponseCache") = .ok sd.responseCache)
    (lastActive : c.time.decode (Json.field members "LastActive") = .ok sd.lastActive)
    (result : c.result.pointer.decode (Json.field members "Result") = .ok sd.result)
    (kssProofs : (kssProofsCodec c.proofP.toCodec).decode (Json.field members "KssProofs") = .ok sd.kssProofs)
    (next : qrCodec.pointer.decode (Json.field members "Next") = .ok sd.next)
    (frontendAuth : stringCodec.decode (Json.field members "FrontendAuth") = .ok sd.frontendAuth)
    (implicitDisclosure :
      c.conDisCon.decode (Json.field members "ImplicitDisclosure") = .ok sd.implicitDisclosure)
    (options : c.options.decode (Json.field members "Options") = .ok sd.options)
    (clientAuth : stringCodec.decode (Json.field members "ClientAuth") = .ok sd.clientAuth)
    (present : Json.member members "Rrequest" = some raw)
    (matching : rrequestType sd.action = some sd.rrequest.concreteType)
    (request : (c.request sd.rrequest.concreteType).decode raw = .ok sd.rrequest) :
    unmarshalJSON c (.object members) = .ok sd := by
  simp only [unmarshalJSON, Json.structMembers, Except.ok_bind, action, requestorToken, clientToken,
    version, legacyCompatible, status, prevStatus, responseCache, lastActive, result, kssProofs, next,
    frontendAuth, implicitDisclosure, options, clientAuth, present, matching, request]
  rfl

theorem unmarshalJSON_of_marshalJSON {c : ExternalCodecs} {sd : SessionData} {j : Json}
    (matching : rrequestType sd.action = some sd.rrequest.concreteType) (fits : sd.IntsFit)
    (encoded : sd.marshalJSON c = .ok j) : unmarshalJSON c j = .ok sd.afterJSON := by
  simp only [marshalJSON, Except.bind_eq_ok, Except.pure_eq_ok] at encoded
  obtain ⟨rrequestJson, hrr, cacheJson, hrc, timeJson, ht, resultJson, hres, kssJson, hk, nextJson, hn,
    implicitJson, hi, optionsJson, ho, rfl⟩ := encoded
  have cache := ResponseCache.unmarshalJSON_of_marshalJSON fits.1 hrc
  have result := Codec.pointer_decode_encode c.result c.result_ne_null hres
  have kssProofs := kssProofsCodec_decode_encode c.proofP c.proofP_ne_null hk
  have next := Codec.pointer_decode_encode qrCodec (fun _ => by simp [qrCodec]) hn
  have lastActive := c.time.decode_encode _ _ ht
  have implicitDisclosure := c.conDisCon.decode_encode _ _ hi
  have options := c.options.decode_encode _ _ ho
  have request := c.request_decode_encode _ _ _ hrr
  have version : sd.afterJSON.version = sd.version := rfl
  have status : ∀ s : ServerStatus, statusCodec.decode (.string s.text) = .ok s := fun s => by
    simp [statusCodec, stringCodec, ServerStatus.ofText_text]
  cases hv : sd.version with
  | none =>
    exact unmarshalJSON_object rfl rfl rfl (by rw [version, hv]; rfl) rfl (status _) (status _) cache
      lastActive result kssProofs next rfl implicitDisclosure options rfl rfl matching request
  | some v =>
    obtain ⟨major, minor⟩ := fits.2 v hv
    have decoded : versionCodec.pointer.decode (.string v.toString) = .ok (some v) := by
      simp [Codec.pointer, versionCodec, Json.render, ProtocolVersion.unmarshalJSON_quote major minor,
        Except.mapError]
    exact unmarshalJSON_object rfl rfl rfl (by rw [version, hv]; exact decoded) rfl (status _) (status _)
      cache lastActive result kssProofs next rfl implicitDisclosure options rfl rfl matching request

end SessionData

/-! ## The Redis store -/

/-- The Redis store as the code keeps it: `session:<C>` holds the JSON `json.Marshal` wrote. -/
structure RedisWireStore where
  tokens : AList fun _ : RequestorToken => RedisValue ClientToken
  sessions : AList fun _ : ClientToken => RedisValue Json

namespace RedisWireStore

def add (c : ExternalCodecs) (s : RedisWireStore) (sd : SessionData) (now : Time) :
    Except String RedisWireStore := do
  let timeout := RedisSessionStore.addTimeout sd
  let json ← sd.marshalJSON c
  pure ⟨s.tokens.insert sd.requestorToken ⟨sd.clientToken, now, timeout⟩,
    s.sessions.insert sd.clientToken ⟨json, now, timeout⟩⟩

def clientGet (c : ExternalCodecs) (s : RedisWireStore) (token : ClientToken) (now : Time) :
    Except String (Option (SessionData × List ResultCallback)) :=
  match s.sessions.lookup token with
  | none => .ok none
  | some v =>
    if v.alive now then
      (SessionData.unmarshalJSON c v.value).map fun sd => some (sd.clientGetExpiryCheck now)
    else .ok none

end RedisWireStore

theorem RedisWireStore.clientGet_add {c : ExternalCodecs} (sd : SessionData)
    (matching : rrequestType sd.action = some sd.rrequest.concreteType) (fits : sd.IntsFit)
    (s : RedisWireStore) (written now : Time) (encodes : sd.ExternalEncodes c) :
    ∃ s', s.add c sd written = .ok s' ∧
      s'.clientGet c sd.clientToken now =
        .ok (if (⟨sd, written, RedisSessionStore.addTimeout sd⟩ : RedisValue SessionData).alive now
          then some (sd.afterJSON.clientGetExpiryCheck now) else none) := by
  obtain ⟨j, encoded⟩ := (SessionData.marshalJSON_ok_iff c sd).2 encodes
  refine ⟨_, by simp [RedisWireStore.add, encoded]; rfl, ?_⟩
  simp only [RedisWireStore.clientGet, AList.lookup_insert, RedisValue.alive]
  split
  · simp [SessionData.unmarshalJSON_of_marshalJSON matching fits encoded, Except.map]
  · rfl

/-- For every session whose action names the type of its request and whose `int`s are Go `int`s,
`json.Marshal` fails only where a codec of a type defined outside src/ fails, and `UnmarshalJSON`
reads back what `json.Marshal` writes as the session with every field, `KssProofs`, its version,
its response cache and its last activity included, but one: the unexported `legacy` flag of its
request comes back false. So, while the keys exist, `clientGet` of a Redis store returns the
session `add` stored in that form, after its expiry check; and the reachable
`legacyCallbackSession`, whose request is legacy, comes back, under any codecs that write its
fields, with a request that is not. -/
theorem sessionData_json_round_trip (c : ExternalCodecs) :
    (∀ sd : SessionData, rrequestType sd.action = some sd.rrequest.concreteType → sd.IntsFit →
      ((∃ j, sd.marshalJSON c = .ok j) ↔ sd.ExternalEncodes c) ∧
        (∀ j, sd.marshalJSON c = .ok j → SessionData.unmarshalJSON c j = .ok sd.afterJSON) ∧
        ∀ (s : RedisWireStore) (written now : Time), sd.ExternalEncodes c →
          ∃ s', s.add c sd written = .ok s' ∧
            s'.clientGet c sd.clientToken now =
              .ok (if (⟨sd, written, RedisSessionStore.addTimeout sd⟩ : RedisValue SessionData).alive now
                then some (sd.afterJSON.clientGetExpiryCheck now) else none)) ∧
      (legacyCallbackSession.ExternalEncodes c →
        Reachable legacyCallbackSession ∧ legacyCallbackSession.rrequest.request.base.legacy = true ∧
          ∀ (s : RedisWireStore) (now : Time), ∃ s' loaded,
            s.add c legacyCallbackSession now = .ok s' ∧
              s'.clientGet c legacyCallbackSession.clientToken now = .ok (some loaded) ∧
              loaded.1.rrequest.request.base.legacy = false) := by
  have fits : legacyCallbackSession.IntsFit := ⟨by decide, fun _ mem => by cases mem⟩
  refine ⟨fun sd matching fits => ⟨SessionData.marshalJSON_ok_iff c sd,
    fun _ => SessionData.unmarshalJSON_of_marshalJSON matching fits, RedisWireStore.clientGet_add sd matching fits⟩,
    fun encodes => ⟨.newSession .., rfl, fun s now => ?_⟩⟩
  obtain ⟨s', added, loaded⟩ := RedisWireStore.clientGet_add legacyCallbackSession rfl fits s now now encodes
  exact ⟨s', _, added, by rw [loaded, if_pos (RedisValue.alive_written ⟨legacyCallbackSession, now, _⟩)],
    by rw [SessionData.clientGetExpiryCheck_rrequest]; rfl⟩

def Codec.only {α : Type} [DecidableEq α] (a₀ b₀ : α) : Codec α where
  encode a := if a = a₀ then .ok (.object []) else .error "a value this codec does not write"
  decode _ := .ok b₀

theorem Codec.only_encodes {α : Type} [DecidableEq α] (a₀ b₀ : α) : (Codec.only a₀ b₀).Encodes a₀ :=
  ⟨_, if_pos rfl⟩

theorem Codec.only_decode_encode {α : Type} [DecidableEq α] {a₀ b₀ a : α} {j : Json}
    (encoded : (Codec.only a₀ b₀).encode a = .ok j) : a = a₀ ∧ (Codec.only a₀ b₀).decode j = .ok b₀ := by
  by_cases same : a = a₀
  · exact ⟨same, rfl⟩
  · simp [Codec.only, same] at encoded

theorem Codec.only_ne_null {α : Type} [DecidableEq α] (a₀ b₀ a : α) :
    (Codec.only a₀ b₀).encode a ≠ .ok .null := by
  simp only [Codec.only]
  split <;> simp

def LawfulCodec.only {α : Type} [DecidableEq α] (a₀ : α) : LawfulCodec α where
  toCodec := .only a₀ a₀
  decode_encode _ _ encoded := by
    obtain ⟨rfl, decoded⟩ := Codec.only_decode_encode encoded
    exact decoded

def legacyCallbackCodecs : ExternalCodecs where
  request _ := .only legacyCallbackSession.rrequest legacyCallbackSession.rrequest.afterJSON
  request_decode_encode _ _ _ encoded := by
    obtain ⟨rfl, decoded⟩ := Codec.only_decode_encode encoded
    exact decoded
  result := .only ⟨"requestorToken", .initialized, actionDisclosing, "", [], none, true⟩
  result_ne_null := Codec.only_ne_null _ _
  proofP := .only ⟨0, 0, 0⟩
  proofP_ne_null := Codec.only_ne_null _ _
  conDisCon := .only legacyCallbackSession.implicitDisclosure
  options := .only legacyCallbackSession.options
  time := .only legacyCallbackSession.lastActive
  bytes := .only legacyCallbackSession.responseCache.message
  body := .only legacyCallbackSession.responseCache.response

theorem sessionData_json_round_trip_legacy :
    legacyCallbackSession.ExternalEncodes legacyCallbackCodecs ∧
      (∀ j, legacyCallbackSession.marshalJSON legacyCallbackCodecs = .ok j →
        SessionData.unmarshalJSON legacyCallbackCodecs j = .ok legacyCallbackSession.afterJSON) ∧
      ∀ (s : RedisWireStore) (now : Time), ∃ s' loaded,
        s.add legacyCallbackCodecs legacyCallbackSession now = .ok s' ∧
          s'.clientGet legacyCallbackCodecs legacyCallbackSession.clientToken now = .ok (some loaded) ∧
          loaded.1.rrequest.request.base.legacy = false :=
  have encodes : legacyCallbackSession.ExternalEncodes legacyCallbackCodecs :=
    ⟨Codec.only_encodes _ _, Codec.only_encodes _ _, Codec.only_encodes _ _, Codec.only_encodes _ _,
      fun _ mem => by cases mem; exact Codec.only_encodes _ _, (fun _ mem => by cases mem),
      Codec.only_encodes _ _, Codec.only_encodes _ _⟩
  have fits : legacyCallbackSession.IntsFit := ⟨by decide, fun _ mem => by cases mem⟩
  ⟨encodes, ((sessionData_json_round_trip legacyCallbackCodecs).1 legacyCallbackSession rfl fits).2.1,
    ((sessionData_json_round_trip legacyCallbackCodecs).2 encodes).2.2⟩

end IrmaServer
