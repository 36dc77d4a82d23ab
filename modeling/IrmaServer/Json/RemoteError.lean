import IrmaServer.Json.Session
import IrmaServer.Middleware.Chain

/-!
# The JSON form of an error

`irma.RemoteError` (`messages.go`) is the body of every error response the server writes
(`server.WriteError`). `json.Marshal` writes its five fields under their tags and leaves a field
out when it holds its zero value (`omitempty`); `json.Unmarshal` gives a field that is not there
its zero value. So leaving fields out loses nothing: the JSON of every error whose texts are
valid UTF-8 reads back as the error.
-/

namespace IrmaServer

/-! ## Members left out -/

theorem Json.member_ite (c : Prop) [Decidable c] (k key : String) (j : Json) :
    Json.member (if c then [(k, j)] else []) key = if c ∧ k = key then some j else none := by
  by_cases hc : c <;> by_cases hk : k = key <;> simp [Json.member, hc, hk]

theorem Json.member_append_ite (members : List (String × Json)) (c : Prop) [Decidable c] (k key : String)
    (j : Json) :
    Json.member (members ++ if c then [(k, j)] else []) key =
      if c ∧ k = key then some j else Json.member members key := by
  by_cases hc : c <;> by_cases hk : k = key <;> simp [Json.member, hc, hk]

theorem stringCodec_decode_omitempty (s : String) :
    stringCodec.decode ((if s ≠ "" then some (Json.string s) else none).getD .null) = .ok s := by
  by_cases h : s = "" <;> simp [h, stringCodec]

theorem intCodec_decode_omitempty {n : Int} (fits : IsInt64 n) :
    intCodec.decode ((if n ≠ 0 then some (Json.number (toString n)) else none).getD .null) = .ok n := by
  by_cases h : n = 0
  · simp [h, intCodec]
  · rw [if_pos h, Option.getD_some, intCodec_decode_toString fits]

/-! ## `RemoteError` -/

namespace RemoteError

def marshalJSON (e : RemoteError) : Json :=
  .object <|
    (if e.status ≠ 0 then [("status", .number (toString e.status))] else []) ++
    (if e.errorName ≠ "" then [("error", .string e.errorName)] else []) ++
    (if e.description ≠ "" then [("description", .string e.description)] else []) ++
    (if e.message ≠ "" then [("message", .string e.message)] else []) ++
    (if e.stacktrace ≠ "" then [("stacktrace", .string e.stacktrace)] else [])

def unmarshalJSON (j : Json) : Except String RemoteError := do
  let members ← j.structMembers "irma.RemoteError"
  let status ← intCodec.decode (Json.field members "status")
  let errorName ← stringCodec.decode (Json.field members "error")
  let description ← stringCodec.decode (Json.field members "description")
  let message ← stringCodec.decode (Json.field members "message")
  let stacktrace ← stringCodec.decode (Json.field members "stacktrace")
  pure ⟨status, errorName, description, message, stacktrace⟩

theorem unmarshalJSON_of_marshalJSON {e : RemoteError} (fits : IsInt64 e.status) :
    unmarshalJSON e.marshalJSON = .ok e := by
  simp only [marshalJSON, unmarshalJSON, Json.structMembers, Json.field, Except.ok_bind, Json.member_append_ite,
    Json.member_ite]
  simp only [String.reduceEq, false_and, and_false, and_true, if_false, intCodec_decode_omitempty fits,
    stringCodec_decode_omitempty, Except.ok_bind]
  rfl

end RemoteError

end IrmaServer
