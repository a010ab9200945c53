import SecurityToken.Json.Parser

/-!
Passing over a JSON value whose content does not matter. Its form is checked, but not what its
numbers and escapes denote, and its nesting has no limit.
-/

namespace SecurityToken.Json

/-- Passes over what follows a backslash; four hexadecimal digits may spell any unit. -/
def skimEscaped? : Reader Unit
  | 'u' :: rest => (unit? rest).map fun found => ((), found.2)
  | rest => (escaped? rest).map fun found => ((), found.2)

/-- Passes over one character of a string; whether the string goes on after it. -/
def skimChar? : Reader Bool
  | '"' :: rest => some (false, rest)
  | '\\' :: rest => (skimEscaped? rest).map fun found => (true, found.2)
  | character :: rest => if character.toNat < 0x20 then none else some (true, rest)
  | [] => none

def skimChars? : Nat → Reader Unit
  | 0, _ => none
  | count + 1, input => do
      let (more, rest) ← skimChar? input
      if more then skimChars? count rest else some ((), rest)

def skimString? (input : List Char) : Option (Unit × List Char) :=
  skimChars? input.length input

def skimMember? (value : Reader Unit) (input : List Char) : Option (Unit × List Char) :=
  match skipSpace input with
  | '"' :: rest => do
      let ((), rest) ← skimString? rest
      match skipSpace rest with
      | ':' :: rest => value rest
      | _ => none
  | _ => none

def skimWith? (nested : Option (Reader Unit)) (input : List Char) : Option (Unit × List Char) :=
  match skipSpace input with
  | '"' :: rest => skimString? rest
  | 'n' :: rest => (word? ['u', 'l', 'l'] null rest).map fun found => ((), found.2)
  | 't' :: rest => (word? ['r', 'u', 'e'] null rest).map fun found => ((), found.2)
  | 'f' :: rest => (word? ['a', 'l', 's', 'e'] null rest).map fun found => ((), found.2)
  | '[' :: rest => do
      let (_, rest) ← list? (← nested) ']' rest
      some ((), rest)
  | '{' :: rest => do
      let (_, rest) ← list? (skimMember? (← nested)) '}' rest
      some ((), rest)
  | rest => (literal? rest).map fun found => ((), found.2)

def skimDepth? : Nat → Reader Unit
  | 0 => skimWith? none
  | depth + 1 => skimWith? (some (skimDepth? depth))

/-- Passes over a value. A text holds fewer openings than characters. -/
def skim? (input : List Char) : Option (Unit × List Char) :=
  skimDepth? input.length input

end SecurityToken.Json
