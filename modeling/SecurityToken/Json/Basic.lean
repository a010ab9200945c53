/-!
JSON values. Members of an object keep their order; integers and doubles are kept apart.
-/

namespace SecurityToken

/-- An integer that fits in 64 bits, with a sign or without. -/
abbrev WireInteger := { value : Int // -0x8000000000000000 ≤ value ∧ value < 0x10000000000000000 }

def WireInteger.ofInt? (value : Int) : Option WireInteger :=
  if h : -0x8000000000000000 ≤ value ∧ value < 0x10000000000000000 then some ⟨value, h⟩ else none

inductive Json where
  | null
  | bool (value : Bool)
  | integer (value : WireInteger)
  | double (value : Float)
  | string (value : String)
  | array (items : List Json)
  | object (members : List (String × Json))
  deriving Inhabited

namespace Json

def string? : Json → Option String
  | string value => some value
  | _ => none

def signed? : Json → Option Int
  | integer value => if value.1 < 0x8000000000000000 then some value.1 else none
  | _ => none

def ofInt? (value : Int) : Option Json :=
  (WireInteger.ofInt? value).map integer

theorem string?_eq_some {value : Json} {text : String} :
    value.string? = some text ↔ value = string text := by
  cases value <;> simp [string?]

theorem bind_string?_eq_some {value : Option Json} {text : String} :
    value.bind string? = some text ↔ value = some (string text) := by
  simp only [Option.bind_eq_some_iff, string?_eq_some, exists_eq_right]

end Json

end SecurityToken
