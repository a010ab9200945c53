import SecurityToken.Text.Invisible

/-!
Texts in double quotes, with everything escaped that would not be seen, and the text of a value that
may be missing.
-/

namespace SecurityToken.Quoted

def hexadecimal (value : Nat) : List Char :=
  Nat.toDigits 16 value

/-- A character inside quotes. One that does not show is written by its number. -/
def escape (character : Char) : List Char :=
  match character with
  | '"' => ['\\', '"']
  | '\\' => ['\\', '\\']
  | '\x00' => ['\\', '0']
  | '\t' => ['\\', 't']
  | '\r' => ['\\', 'r']
  | '\n' => ['\\', 'n']
  | other =>
      if isInvisible other then "\\u\x7b".toList ++ hexadecimal other.toNat ++ "\x7d".toList
      else [other]

def text (value : String) : String :=
  String.ofList ('"' :: value.toList.flatMap escape ++ ['"'])

def optional : Option String → String
  | some value => "Some(" ++ value ++ ")"
  | none => "None"

def list (items : List String) : String :=
  "[" ++ ", ".intercalate items ++ "]"

def fieldsText (fields : List (String × String)) : String :=
  ", ".intercalate (fields.map fun field => field.1 ++ ": " ++ field.2)

def record (name : String) (fields : List (String × String)) : String :=
  name ++ " \x7b " ++ fieldsText fields ++ " \x7d"

/-- A record of which some fields are not shown. -/
def openRecord (name : String) (fields : List (String × String)) : String :=
  name ++ " \x7b " ++ fieldsText fields ++ ", .. \x7d"

end SecurityToken.Quoted
