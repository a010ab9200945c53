import SecurityToken.Bytes
import SecurityToken.Crypto.Fault
import SecurityToken.Instant
import SecurityToken.Json.Conversion
import SecurityToken.Json.Parser

/-!
Readings of the fields of a description, which is a JSON object. A field may be a text, bytes in
hexadecimal digits, an instant, or a text that holds JSON itself.
-/

namespace SecurityToken

inductive DescriptionError where
  | missing (field : String)
  | notHexadecimal
  | notJson
  | notObject
  | outOfRange (field : String)
  | unknown (what : String)
  | refused (fault : CryptoFault)

abbrev Described (α : Type) := Except DescriptionError α

namespace Json

def textAt (description : Json) (field : String) : Described String :=
  match description.textAt? field with
  | some value => .ok value
  | none => .error (.missing field)

def bytesOf (digits : String) : Described Bytes :=
  match Bytes.ofHex? digits with
  | some bytes => .ok bytes
  | none => .error .notHexadecimal

def bytesAt (description : Json) (field : String) : Described Bytes := do
  bytesOf (← description.textAt field)

def bytesOrNoneAt (description : Json) (field : String) : Described Bytes :=
  bytesOf ((description.textAt? field).getD "")

def jsonOf (source : String) : Described Json :=
  match ofText? source with
  | some value => .ok value
  | none => .error .notJson

def jsonAt (description : Json) (field : String) : Described Json := do
  jsonOf (← description.textAt field)

def tableAt (description : Json) (field : String) : Described (Table Json) := do
  match ← description.jsonAt field with
  | .object members => return .ofList members
  | _ => throw .notObject

def tableOrEmptyAt (description : Json) (field : String) : Described (Table Json) :=
  if (description.textAt? field).isSome then description.tableAt field else .ok ∅

/-- An instant: seconds since the first of January 1970, alone or with nanoseconds beyond them, or
one of the words for the ends of the range. -/
def instant? : Json → Option Instant
  | .integer seconds => Instant.ofSeconds? seconds.1
  | .array [.integer seconds, .integer nanoseconds] =>
      if 0 ≤ nanoseconds.1 ∧ nanoseconds.1 < 1000000000 then
        Instant.ofNanoseconds? (seconds.1 * 1000000000 + nanoseconds.1)
      else none
  | .string "max" => some .latest
  | .string "min" => some .earliest
  | _ => none

def instantAt (description : Json) (field : String) : Described Instant :=
  match (description.at? field).bind instant? with
  | some instant => .ok instant
  | none => .error (.outOfRange field)

def instantAt? (description : Json) (field : String) : Described (Option Instant) :=
  if (description.at? field).isSome then some <$> description.instantAt field else .ok none

end Json

end SecurityToken
