import SecurityToken.Bytes
import SecurityToken.Json.Number
import SecurityToken.Json.Printer
import SecurityToken.Table

/-!
The reader of JSON: strict, with at most 127 arrays and objects inside one another. A member whose
name comes again takes the later value and keeps its place.
-/

namespace SecurityToken.Json

/-- A reader of the front of a text: what it found, and the text after it. -/
abbrev Reader (α : Type) := List Char → Option (α × List Char)

def isSpace (character : Char) : Bool :=
  character == ' ' || character == '\t' || character == '\n' || character == '\r'

def skipSpace (input : List Char) : List Char :=
  input.dropWhile isSpace

def unit? : Reader Nat
  | first :: second :: third :: fourth :: rest => do
      let first ← Bytes.hexValue? first
      let second ← Bytes.hexValue? second
      let third ← Bytes.hexValue? third
      let fourth ← Bytes.hexValue? fourth
      some (((first * 16 + second) * 16 + third) * 16 + fourth, rest)
  | _ => none

/-- Reads the character after an escaped letter u; a pair of surrogates spells one character, and
a surrogate alone none. -/
def escapedUnit? (input : List Char) : Option (Char × List Char) := do
  let (unit, rest) ← unit? input
  if 0xD800 ≤ unit ∧ unit < 0xDC00 then
    match rest with
    | '\\' :: 'u' :: rest => do
        let (low, rest) ← unit? rest
        if 0xDC00 ≤ low ∧ low < 0xE000 then
          some (Char.ofNat (0x10000 + (unit - 0xD800) * 0x400 + (low - 0xDC00)), rest)
        else none
    | _ => none
  else if 0xDC00 ≤ unit ∧ unit < 0xE000 then none
  else some (Char.ofNat unit, rest)

def escaped? : Reader Char
  | '"' :: rest => some ('"', rest)
  | '\\' :: rest => some ('\\', rest)
  | '/' :: rest => some ('/', rest)
  | 'b' :: rest => some ('\x08', rest)
  | 'f' :: rest => some ('\x0c', rest)
  | 'n' :: rest => some ('\n', rest)
  | 'r' :: rest => some ('\r', rest)
  | 't' :: rest => some ('\t', rest)
  | 'u' :: rest => escapedUnit? rest
  | _ => none

def stringChar? : Reader (Option Char)
  | '"' :: rest => some (none, rest)
  | '\\' :: rest => (escaped? rest).map fun found => (some found.1, found.2)
  | character :: rest => if character.toNat < 0x20 then none else some (some character, rest)
  | [] => none

def stringChars? : Nat → Reader (List Char)
  | 0, _ => none
  | count + 1, input => do
      let (found, rest) ← stringChar? input
      match found with
      | none => some ([], rest)
      | some character => do
          let (others, rest) ← stringChars? count rest
          some (character :: others, rest)

def stringBody? (input : List Char) : Option (String × List Char) := do
  let (characters, rest) ← stringChars? input.length input
  some (String.ofList characters, rest)

def word? (word : List Char) (meaning : Json) (input : List Char) : Option (Json × List Char) :=
  if word.isPrefixOf input then some (meaning, input.drop word.length) else none

/-- Reads at most so many items with commas between them, up to a closing character. -/
def items? {α : Type} (item : Reader α) (close : Char) : Nat → Reader (List α)
  | 0, _ => none
  | count + 1, input => do
      let (first, rest) ← item input
      match skipSpace rest with
      | ',' :: rest => do
          let (others, rest) ← items? item close count rest
          some (first :: others, rest)
      | character :: rest => if character = close then some ([first], rest) else none
      | [] => none

def list? {α : Type} (item : Reader α) (close : Char) (input : List Char) :
    Option (List α × List Char) :=
  match skipSpace input with
  | character :: rest =>
      if character = close then some ([], rest) else items? item close input.length input
  | [] => none

def member? (value : Reader Json) (input : List Char) : Option ((String × Json) × List Char) :=
  match skipSpace input with
  | '"' :: rest => do
      let (name, rest) ← stringBody? rest
      match skipSpace rest with
      | ':' :: rest => do
          let (content, rest) ← value rest
          some ((name, content), rest)
      | _ => none
  | _ => none

/-- Reads a value; a reader of the values inside it is there unless the nesting is used up. -/
def valueWith? (nested : Option (Reader Json)) (input : List Char) : Option (Json × List Char) :=
  match skipSpace input with
  | '"' :: rest => (stringBody? rest).map fun found => (string found.1, found.2)
  | 'n' :: rest => word? ['u', 'l', 'l'] null rest
  | 't' :: rest => word? ['r', 'u', 'e'] (bool true) rest
  | 'f' :: rest => word? ['a', 'l', 's', 'e'] (bool false) rest
  | '[' :: rest => do
      let (items, rest) ← list? (← nested) ']' rest
      some (array items, rest)
  | '{' :: rest => do
      let (members, rest) ← list? (member? (← nested)) '}' rest
      some (object (Table.ofList members).entries, rest)
  | rest => number? rest

/-- Reads a value with so many arrays and objects inside one another. -/
def value? : Nat → Reader Json
  | 0 => valueWith? none
  | depth + 1 => valueWith? (some (value? depth))

def parse? (input : List Char) : Option Json := do
  let (value, rest) ← value? 127 input
  if (skipSpace rest).isEmpty then some value else none

def ofText? (text : String) : Option Json :=
  parse? text.toList

end SecurityToken.Json
