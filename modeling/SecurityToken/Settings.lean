import SecurityToken.Claim.Names
import SecurityToken.Fault
import SecurityToken.Instant
import SecurityToken.Json.Skim

/-!
The settings of a handler, and their JSON form: an object whose unknown members are passed over and
whose missing members take defaults, or an array of the first few values in order.
-/

namespace SecurityToken

structure Settings where
  maximumTokenSize : Nat
  maximumNestingDepth : Nat
  mapInboundClaims : Bool
  nameClaimType : String
  roleClaimType : String
  lifetimeMinutes : Int
  defaultTimes : Bool
  deriving DecidableEq

namespace Settings

def standard : Settings :=
  ⟨256000, 2, true, ClaimType.name, ClaimType.role, 60, true⟩

def check (settings : Settings) : Except Fault Unit :=
  if settings.maximumTokenSize = 0 then
    .error (.configuration "maximum_token_size_bytes must be greater than zero")
  else if settings.lifetimeMinutes ≤ 0 then
    .error (.configuration "default_token_lifetime_minutes must be positive")
  else .ok ()

def defaultExpiry? (settings : Settings) (start : Instant) : Option Instant := do
  start.add? (← Duration.ofMinutes? settings.lifetimeMinutes)

inductive Field where
  | maximumTokenSize
  | maximumNestingDepth
  | mapInboundClaims
  | nameClaimType
  | roleClaimType
  | lifetimeMinutes
  | defaultTimes
  deriving DecidableEq

namespace Field

def all : List Field :=
  [maximumTokenSize, maximumNestingDepth, mapInboundClaims, nameClaimType, roleClaimType,
    lifetimeMinutes, defaultTimes]

def name : Field → String
  | maximumTokenSize => "maximum_token_size_bytes"
  | maximumNestingDepth => "maximum_nesting_depth"
  | mapInboundClaims => "map_inbound_claims"
  | nameClaimType => "name_claim_type"
  | roleClaimType => "role_claim_type"
  | lifetimeMinutes => "default_token_lifetime_minutes"
  | defaultTimes => "set_default_times_on_creation"

def ofName? (name : String) : Option Field :=
  all.find? fun field => field.name == name

def json (settings : Settings) : Field → Json
  | maximumTokenSize => (Json.ofInt? settings.maximumTokenSize).getD .null
  | maximumNestingDepth => (Json.ofInt? settings.maximumNestingDepth).getD .null
  | mapInboundClaims => .bool settings.mapInboundClaims
  | nameClaimType => .string settings.nameClaimType
  | roleClaimType => .string settings.roleClaimType
  | lifetimeMinutes => (Json.ofInt? settings.lifetimeMinutes).getD .null
  | defaultTimes => .bool settings.defaultTimes

def set? (settings : Settings) : Field → Json → Option Settings
  | maximumTokenSize, .integer value =>
      if 0 ≤ value.1 then some { settings with maximumTokenSize := value.1.toNat } else none
  | maximumNestingDepth, .integer value =>
      if 0 ≤ value.1 then some { settings with maximumNestingDepth := value.1.toNat } else none
  | mapInboundClaims, .bool value => some { settings with mapInboundClaims := value }
  | nameClaimType, .string value => some { settings with nameClaimType := value }
  | roleClaimType, .string value => some { settings with roleClaimType := value }
  | lifetimeMinutes, .integer value =>
      if value.1 < 0x8000000000000000 then some { settings with lifetimeMinutes := value.1 } else none
  | defaultTimes, .bool value => some { settings with defaultTimes := value }
  | _, _ => none

end Field

def json (settings : Settings) : Json :=
  .object (Field.all.map fun field => (field.name, field.json settings))

/-- Reads the value of a member; that of an unknown member is passed over. -/
def memberValue? (name : String) : Json.Reader (Option (Field × Json)) := fun input =>
  match Field.ofName? name with
  | some field => (Json.value? 126 input).map fun found => (some (field, found.1), found.2)
  | none => (Json.skim? input).map fun found => (none, found.2)

def member? (input : List Char) : Option (Option (Field × Json) × List Char) :=
  match Json.skipSpace input with
  | '"' :: rest => do
      let (name, rest) ← Json.stringBody? rest
      match Json.skipSpace rest with
      | ':' :: rest => memberValue? name rest
      | _ => none
  | _ => none

def ofFields? (fields : List (Field × Json)) : Option Settings :=
  fields.foldlM (fun settings field => field.1.set? settings field.2) standard

/-- The settings that a JSON text denotes. No member may come twice. -/
def ofText? (text : String) : Option Settings := do
  let (fields, rest) ←
    match Json.skipSpace text.toList with
    | '{' :: rest => do
        let (members, rest) ← Json.list? member? '}' rest
        let fields := members.filterMap id
        if (fields.map Prod.fst).eraseDups.length = fields.length then some (fields, rest) else none
    | '[' :: rest => do
        let (items, rest) ← Json.list? (Json.value? 126) ']' rest
        if items.length ≤ Field.all.length then some (Field.all.zip items, rest) else none
    | _ => none
  if (Json.skipSpace rest).isEmpty then ofFields? fields else none

end Settings

end SecurityToken
