import IrmaServer.Json.Text

/-!
# The JSON form of a protocol version

`ProtocolVersion.MarshalJSON` writes `json.Marshal(v.String())`, the JSON string
`"major.minor"`. `UnmarshalJSON` reads a JSON string, or the raw text when that fails, splits it
at the dots and reads the two parts with `strconv.Atoi`. The decimal form of an `int` has no
dot, so the split finds the two numbers again, and reading back what was written gives the
version for every pair of `int`s, negative ones included.
-/

namespace IrmaServer

inductive VersionError
  | invalid (message : String)
  | atoi (err : NumError)
  deriving DecidableEq, Repr

/-- The text of an error of `ProtocolVersion.UnmarshalJSON`; `strconv.NumError` quotes its input
with `strconv.Quote`, written here as JSON quoting. -/
def VersionError.message : VersionError → String
  | .invalid message => message
  | .atoi e => "strconv." ++ e.func ++ ": parsing " ++ quote e.num ++
      (match e.err with
       | .errSyntax => ": invalid syntax"
       | .errRange => ": value out of range")

namespace ProtocolVersion

def marshalJSON (v : ProtocolVersion) : String := quote v.toString

/-- `ProtocolVersion.UnmarshalJSON`. Where it fails, Go may already have set `Major`; the decoder
that calls it then fails as a whole. -/
def unmarshalJSON (b : String) : Except VersionError ProtocolVersion :=
  let str := (unmarshalString b).getD b
  match splitOn '.' str.toList with
  | [major, minor] => do
    let major ← (atoi ⟨major⟩).mapError .atoi
    let minor ← (atoi ⟨minor⟩).mapError .atoi
    pure ⟨major, minor⟩
  | _ => .error (.invalid "Invalid protocol version number: not of form x.y")

theorem splitOn_toString (v : ProtocolVersion) :
    splitOn '.' v.toString.toList = [(ToString.toString v.major).toList, (ToString.toString v.minor).toList] := by
  have text : v.toString.toList =
      (ToString.toString v.major).toList ++ '.' :: (ToString.toString v.minor).toList := by
    simp [ProtocolVersion.toString, String.toList]
  rw [text, splitOn_append (dot_not_mem_toString _), splitOn_of_not_mem (dot_not_mem_toString _)]

theorem unmarshalJSON_quote {v : ProtocolVersion} (major : IsInt64 v.major) (minor : IsInt64 v.minor) :
    unmarshalJSON (quote v.toString) = .ok v := by
  simp only [unmarshalJSON, unmarshalString_quote, Option.getD_some, splitOn_toString]
  simp [atoi_toString major, atoi_toString minor]
  rfl

/-- For every version whose numbers are `int`s, negative ones included, `UnmarshalJSON` reads
back what `MarshalJSON` wrote. -/
theorem unmarshalJSON_marshalJSON (v : ProtocolVersion) (major : IsInt64 v.major)
    (minor : IsInt64 v.minor) : unmarshalJSON v.marshalJSON = .ok v :=
  unmarshalJSON_quote major minor

theorem unmarshalJSON_marshalJSON_negative :
    IsInt64 (-1) ∧ IsInt64 2 ∧ unmarshalJSON (marshalJSON ⟨-1, 2⟩) = .ok ⟨-1, 2⟩ :=
  ⟨by decide, by decide, unmarshalJSON_marshalJSON ⟨-1, 2⟩ (by decide) (by decide)⟩

end ProtocolVersion

end IrmaServer
