import SecurityToken.Json.Double

/-!
The compact text of a JSON value: no blanks, members in order, and as few escapes as JSON allows.
-/

namespace SecurityToken.Json

/-- The text of a character inside a string: a quote, a backslash and a control character are
escaped, the control characters by a letter where they have one. -/
def escape (character : Char) : List Char :=
  if character = '"' then ['\\', '"']
  else if character = '\\' then ['\\', '\\']
  else if character.toNat < 0x20 then
    match character.toNat with
    | 8 => ['\\', 'b']
    | 9 => ['\\', 't']
    | 10 => ['\\', 'n']
    | 12 => ['\\', 'f']
    | 13 => ['\\', 'r']
    | code => ['\\', 'u', '0', '0', Nat.digitChar (code / 16), Nat.digitChar (code % 16)]
  else [character]

def quote (text : String) : List Char :=
  '"' :: text.toList.flatMap escape ++ ['"']

def integerText (value : Int) : List Char :=
  if value < 0 then '-' :: Nat.toDigits 10 value.natAbs else Nat.toDigits 10 value.natAbs

mutual

def print : Json → List Char
  | null => ['n', 'u', 'l', 'l']
  | bool true => ['t', 'r', 'u', 'e']
  | bool false => ['f', 'a', 'l', 's', 'e']
  | integer value => integerText value.1
  | double value => doubleText value
  | string value => quote value
  | array items => '[' :: printItems items ++ [']']
  | object members => '{' :: printMembers members ++ ['}']

def printItems : List Json → List Char
  | [] => []
  | [item] => print item
  | item :: next :: rest => print item ++ ',' :: printItems (next :: rest)

def printMembers : List (String × Json) → List Char
  | [] => []
  | [(name, value)] => quote name ++ ':' :: print value
  | (name, value) :: next :: rest =>
      quote name ++ ':' :: print value ++ ',' :: printMembers (next :: rest)

end

def text (value : Json) : String :=
  String.ofList value.print

end SecurityToken.Json
