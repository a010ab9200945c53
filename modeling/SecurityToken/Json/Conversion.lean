import SecurityToken.Json.Basic
import SecurityToken.Table

/-!
Plain values as JSON, and the members of an object as plain values. A member that is null counts as
missing.
-/

namespace SecurityToken.Json

variable {α : Type}

/-- An integer; outside the range of one it is null. -/
def ofInt (value : Int) : Json := (ofInt? value).getD .null

def ofNat (value : Nat) : Json := ofInt value

def ofOption (encode : α → Json) : Option α → Json
  | some value => encode value
  | none => .null

def ofOptionalText : Option String → Json := ofOption .string

def ofList (encode : α → Json) (values : List α) : Json := .array (values.map encode)

def ofTexts : List String → Json := ofList .string

def ofTable (table : Table String) : Json :=
  .object (table.entries.map fun entry => (entry.1, .string entry.2))

def at? (value : Json) (name : String) : Option Json :=
  match value with
  | .object members => (members.lookup name).filter fun | .null => false | _ => true
  | _ => none

def textAt? (value : Json) (name : String) : Option String := (value.at? name).bind string?

def flagAt? (value : Json) (name : String) : Option Bool :=
  match value.at? name with
  | some (.bool flag) => some flag
  | _ => none

def integerAt? (value : Json) (name : String) : Option Int :=
  match value.at? name with
  | some (.integer number) => some number.1
  | _ => none

def naturalAt? (value : Json) (name : String) : Option Nat :=
  (value.integerAt? name).bind Int.toNat?

def itemsAt (value : Json) (name : String) : List Json :=
  match value.at? name with
  | some (.array items) => items
  | _ => []

def textsAt (value : Json) (name : String) : List String :=
  (value.itemsAt name).filterMap string?

def pairsAt (value : Json) (name : String) : List (String × String) :=
  (value.itemsAt name).filterMap fun
    | .array [.string first, .string second] => some (first, second)
    | _ => none

def membersAt (value : Json) (name : String) : List (String × Json) :=
  match value.at? name with
  | some (.object members) => members
  | _ => []

end SecurityToken.Json
