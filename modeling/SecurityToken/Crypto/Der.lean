import SecurityToken.Bytes

/-!
The distinguished encoding of structured data: elements of a tag, a length and content. A length is
written in one way only, and so is a number.
-/

namespace SecurityToken.Der

/-- One encoded value. Content that holds other elements is read by `elements?`. -/
structure Element where
  tag : UInt8
  content : Bytes
  deriving DecidableEq

namespace Tag

def integer : UInt8 := 0x02
def bitString : UInt8 := 0x03
def octetString : UInt8 := 0x04
def null : UInt8 := 0x05
def objectIdentifier : UInt8 := 0x06
def sequence : UInt8 := 0x30

/-- A field that is told apart by its number in the surrounding sequence. -/
def field (number : Nat) : UInt8 := UInt8.ofNat (0x80 + number)

def wrapped (number : Nat) : UInt8 := UInt8.ofNat (0xa0 + number)

def universal : List UInt8 :=
  [0x01, 0x02, 0x03, 0x04, 0x05, 0x06, 0x09, 0x0a, 0x0c, 0x12, 0x13, 0x14, 0x15, 0x16, 0x17, 0x18,
    0x1a, 0x1e, 0x30, 0x31]

/-- Whether a tag is in use; the numbers of the others end at thirty. -/
def isKnown (tag : UInt8) : Bool :=
  if tag.toNat < 64 then universal.contains tag else tag.toNat % 32 != 31

def isWrapped (tag : UInt8) : Bool := tag.toNat / 32 == 5 && isKnown tag

end Tag

def digits (value : Nat) : Bytes :=
  (Bytes.ofNat 4 value).dropWhile (· == 0)

/-- A length below 128 in one byte, a larger one behind the number of its bytes. -/
def lengthBytes (length : Nat) : Bytes :=
  if length < 128 then [UInt8.ofNat length]
  else UInt8.ofNat (0x80 + (digits length).length) :: digits length

/-- Reads a length in its only form, of four bytes at most. -/
def length? : Bytes → Option (Nat × Bytes)
  | [] => none
  | first :: rest =>
      if first.toNat < 128 then some (first.toNat, rest)
      else
        let count := first.toNat - 128
        let length := Bytes.toNat (rest.take count)
        if 1 ≤ count ∧ count ≤ 4 ∧ lengthBytes length = first :: rest.take count then
          some (length, rest.drop count)
        else none

theorem length_rest_le {bytes rest : Bytes} {length : Nat}
    (h : length? bytes = some (length, rest)) :
    rest.length < bytes.length := by
  match bytes, h with
  | first :: tail, h =>
      simp only [length?] at h
      split at h
      · obtain ⟨_, rfl⟩ := h
        simp
      · split at h
        · simp only [Option.some.injEq, Prod.mk.injEq] at h
          obtain ⟨_, rfl⟩ := h
          simp only [List.length_drop, List.length_cons]
          omega
        · simp at h

def elements? : Bytes → Option (List Element)
  | [] => some []
  | tag :: bytes =>
      match _h : length? bytes with
      | none => none
      | some (length, rest) =>
          if rest.length < length then none
          else
            (elements? (rest.drop length)).map fun elements => ⟨tag, rest.take length⟩ :: elements
termination_by bytes => bytes.length
decreasing_by
  have := length_rest_le _h
  simp only [List.length_drop, List.length_cons]
  omega

def sequence? (bytes : Bytes) : Option (List Element) :=
  match elements? bytes with
  | some [⟨tag, content⟩] => if tag = Tag.sequence then elements? content else none
  | _ => none

namespace Element

def content? (element : Element) (tag : UInt8) : Option Bytes :=
  if element.tag = tag then some element.content else none

/-- The natural number of an integer element. A zero byte comes first only where the next one would
make the number negative. -/
def natural? (element : Element) : Option Nat :=
  match element.content? Tag.integer with
  | none | some [] => none
  | some [0] => some 0
  | some (0 :: second :: rest) =>
      if second.toNat < 128 then none else some (Bytes.toNat (second :: rest))
  | some (first :: rest) => if first.toNat < 128 then some (Bytes.toNat (first :: rest)) else none

def isNumbered (number : Nat) (element : Element) : Bool :=
  element.tag == Tag.field number || element.tag == Tag.wrapped number

def inner? (element : Element) : Option Element :=
  if Tag.isWrapped element.tag then
    match elements? element.content with
    | some [inner] => if Tag.isKnown inner.tag then some inner else none
    | _ => none
  else none

def bitString? (element : Element) : Option Bytes :=
  match element.content? Tag.bitString with
  | some (0 :: bytes) => some bytes
  | _ => none

/-- Whether bytes are numbers in groups of seven bits, the last byte of each below 128 and the fifth
below 16, given how many bytes of the first number came before. -/
def arcsFit : Nat → Bytes → Bool
  | count, [] => count == 0
  | count, byte :: rest =>
      (count < 4 || byte.toNat < 16) && arcsFit (if byte.toNat < 128 then 0 else count + 1) rest

/-- Whether an element is a name of at least three and at most 39 bytes, of which the first stands
for two numbers. -/
def isIdentifier (element : Element) : Bool :=
  match element.content? Tag.objectIdentifier with
  | some (first :: rest) =>
      decide (first.toNat < 120) && decide (2 ≤ rest.length ∧ rest.length < 39) && arcsFit 0 rest
  | _ => false

end Element

end SecurityToken.Der
