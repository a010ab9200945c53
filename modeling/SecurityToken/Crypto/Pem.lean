import SecurityToken.Compact.Base64url

/-!
Binary documents in text form: lines of base64 between a line that names the document and one that
closes it.
-/

namespace SecurityToken.Pem

def opening : List Char := "-----BEGIN ".toList

def closing : List Char := "-----END ".toList

def dashes : List Char := "-----".toList

def dropText? (text : List Char) (characters : List Char) : Option (List Char) :=
  if text.isPrefixOf characters then some (characters.drop text.length) else none

def dropFinal? (text : List Char) (characters : List Char) : Option (List Char) :=
  if text.isSuffixOf characters then some (characters.take (characters.length - text.length))
  else none

def dropLineEnd? : List Char → Option (List Char)
  | '\r' :: '\n' :: rest => some rest
  | '\r' :: rest => some rest
  | '\n' :: rest => some rest
  | _ => none

def dropFinalLineEnd? (characters : List Char) : Option (List Char) :=
  match characters.reverse with
  | '\n' :: '\r' :: rest => some rest.reverse
  | '\n' :: rest => some rest.reverse
  | '\r' :: rest => some rest.reverse
  | _ => none

/-- What follows the first opening at the start of a line. No null character comes before it. -/
def afterPreamble? : List Char → Option (List Char)
  | [] => none
  | first :: rest =>
      if first = '\x00' then none
      else if first = '\n' && opening.isPrefixOf rest then some (rest.drop opening.length)
      else afterPreamble? rest

/-- The lines between the opening and the closing line of a label. -/
def body? (label : String) (characters : List Char) : Option (List Char) := do
  let rest ← afterPreamble? ('\n' :: characters)
  let rest ← dropText? (label.toList ++ dashes) rest
  let rest ← dropLineEnd? rest
  let rest := (dropFinalLineEnd? rest).getD rest
  let rest ← dropFinal? (closing ++ label.toList ++ dashes) rest
  dropFinalLineEnd? rest

theorem length_dropLineEnd? {characters rest : List Char}
    (h : dropLineEnd? characters = some rest) : rest.length < characters.length := by
  unfold dropLineEnd? at h
  split at h
  · obtain rfl := Option.some.inj h
    simp only [List.length_cons]
    omega
  · obtain rfl := Option.some.inj h
    simp
  · obtain rfl := Option.some.inj h
    simp
  · simp at h

/-- Joins lines of sixty-four symbols. The last line may be shorter, and one line end may follow it.
A full line with filling is the last one, and only its own line end follows it. -/
def unwrap? (characters : List Char) : Option (List Char) :=
  if characters.length ≤ 64 then some ((dropFinalLineEnd? characters).getD characters)
  else
    match _h : dropLineEnd? (characters.drop 64) with
    | none => none
    | some rest =>
        if rest.isEmpty || !(characters.take 64).contains '=' then
          (unwrap? rest).map (characters.take 64 ++ ·)
        else none
termination_by characters.length
decreasing_by
  have := length_dropLineEnd? _h
  simp only [List.length_drop] at this
  omega

def urlSymbol (symbol : Char) : Char :=
  match symbol with
  | '+' => '-'
  | '/' => '_'
  | '-' | '_' => '='
  | other => other

/-- Decodes base64 that is filled up with equality signs to groups of four. -/
def decode? (characters : List Char) : Option Bytes :=
  let symbols := (characters.reverse.dropWhile (· == '=')).reverse
  if characters.length % 4 = 0 ∧ characters.length ≤ symbols.length + 2 then
    Base64url.decode (symbols.map urlSymbol)
  else none

def document? (label : String) (text : String) : Option Bytes := do
  decode? (← unwrap? (← body? label text.toList))

end SecurityToken.Pem
