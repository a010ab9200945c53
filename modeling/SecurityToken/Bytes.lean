/-!
Byte strings: their UTF-8 reading, their hexadecimal form and their value as big-endian numbers.
Main statement: a text is read back from its own bytes.
-/

namespace SecurityToken

abbrev Bytes := List UInt8

namespace Bytes

def ofText (text : String) : Bytes :=
  text.toByteArray.data.toList

def text? (bytes : Bytes) : Option String :=
  String.fromUTF8? ⟨bytes.toArray⟩

theorem text?_ofText (text : String) : text? (ofText text) = some text := by
  have hbytes : (⟨(ofText text).toArray⟩ : ByteArray) = text.toByteArray := by
    simp [ofText]
  simp only [text?, hbytes, String.fromUTF8?, dif_pos text.isValidUTF8]
  rfl

theorem ofText_injective {left right : String} (h : ofText left = ofText right) :
    left = right := by
  have := congrArg text? h
  simpa [text?_ofText] using this

def toNat (bytes : Bytes) : Nat :=
  bytes.foldl (fun value byte => value * 256 + byte.toNat) 0

/-- The lowest bytes of a number, most significant first. -/
def ofNat (size value : Nat) : Bytes :=
  (List.range size).map fun index => UInt8.ofNat (value >>> (8 * (size - 1 - index)))

@[simp]
theorem length_ofNat (size value : Nat) : (ofNat size value).length = size := by
  simp [ofNat]

/-- Bytewise exclusive or, as long as the shorter operand. -/
def xor (left right : Bytes) : Bytes :=
  List.zipWith (· ^^^ ·) left right

def hexDigit (value : Nat) : Char :=
  if value < 10 then Char.ofNat (48 + value) else Char.ofNat (87 + value)

def hexValue? (digit : Char) : Option Nat :=
  if '0' ≤ digit ∧ digit ≤ '9' then some (digit.toNat - 48)
  else if 'a' ≤ digit ∧ digit ≤ 'f' then some (digit.toNat - 87)
  else if 'A' ≤ digit ∧ digit ≤ 'F' then some (digit.toNat - 55)
  else none

def hex (bytes : Bytes) : String :=
  String.ofList <| bytes.flatMap fun byte =>
    [hexDigit (byte.toNat / 16), hexDigit (byte.toNat % 16)]

def ofHexDigits? : List Char → Option Bytes
  | [] => some []
  | [_] => none
  | high :: low :: rest => do
      let high ← hexValue? high
      let low ← hexValue? low
      let rest ← ofHexDigits? rest
      pure (UInt8.ofNat (high * 16 + low) :: rest)

def ofHex? (text : String) : Option Bytes :=
  ofHexDigits? text.toList

/-- The bytes in pieces of one size; the last piece may be shorter. -/
def pieces (size : Nat) (bytes : Bytes) : List Bytes :=
  if _h : 0 < size ∧ bytes ≠ [] then bytes.take size :: pieces size (bytes.drop size) else []
termination_by bytes.length
decreasing_by
  have : 0 < bytes.length := List.length_pos_iff.2 _h.2
  simp only [List.length_drop]
  omega

end Bytes

end SecurityToken
