import SecurityToken.Bytes

/-!
Where the segments of a text lie, counted in bytes. One pass over the bytes notes the ranges between
the dots; what lies in a range is cut out of the text when it is asked for.
-/

namespace SecurityToken.Compact

/-- The bytes from one offset up to another. -/
structure ByteRange where
  start : Nat
  stop : Nat
  deriving DecidableEq, Repr

namespace ByteRange

/-- Whether both ends of a range stand at the ends of a text or between its characters, in this
order. -/
structure LiesIn (range : ByteRange) (text : String) : Prop where
  start : String.Pos.Raw.IsValid text ⟨range.start⟩
  stop : String.Pos.Raw.IsValid text ⟨range.stop⟩
  ordered : range.start ≤ range.stop

instance (range : ByteRange) (text : String) : Decidable (range.LiesIn text) :=
  decidable_of_iff (String.Pos.Raw.IsValid text ⟨range.start⟩ ∧
      String.Pos.Raw.IsValid text ⟨range.stop⟩ ∧ range.start ≤ range.stop)
    ⟨fun ⟨start, stop, ordered⟩ => ⟨start, stop, ordered⟩,
      fun ⟨start, stop, ordered⟩ => ⟨start, stop, ordered⟩⟩

/-- The part of a text in a range. There is none unless the range lies in the text. -/
def slice? (range : ByteRange) (text : String) : Option String :=
  if h : range.LiesIn text then
    some (text.extract (text.pos ⟨range.start⟩ h.start) (text.pos ⟨range.stop⟩ h.stop))
  else none

end ByteRange

/-- A text with the ranges of its segments. -/
structure Layout where
  text : String
  ranges : List ByteRange

namespace Layout

def dot : UInt8 := '.'.toUInt8

/-- The ranges that end at the dots among bytes and at their end. The bytes go on from an index, and
the first range began at or before it. -/
def rangesFrom (start index : Nat) : Bytes → List ByteRange
  | [] => [⟨start, index⟩]
  | byte :: rest =>
      if byte = dot then ⟨start, index⟩ :: rangesFrom (index + 1) (index + 1) rest
      else rangesFrom start (index + 1) rest

def ofText (text : String) : Layout :=
  ⟨text, rangesFrom 0 0 (Bytes.ofText text)⟩

def count (layout : Layout) : Nat :=
  layout.ranges.length

def segments? (layout : Layout) : Option (List String) :=
  layout.ranges.mapM (·.slice? layout.text)

/-- One segment, empty beyond the last. -/
def segment? (layout : Layout) (index : Nat) : Option String :=
  match layout.ranges[index]? with
  | some range => range.slice? layout.text
  | none => some ""

/-- The text up to the end of the second segment, or all of it. -/
def signingInput? (layout : Layout) : Option String :=
  match layout.ranges[1]? with
  | some payload => ByteRange.slice? ⟨0, payload.stop⟩ layout.text
  | none => some layout.text

end Layout

end SecurityToken.Compact
