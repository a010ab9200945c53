import SecurityToken.Compact.Parser
import SecurityToken.Compact.Printer
import SecurityToken.Proofs.Json.RoundTrip

/-!
# What a segment holds

A segment is read exactly when it is the writing of some bytes, so the bytes and the segment give
each other. A segment of JSON has one more layer: the bytes spell a text, and the text denotes a
value. The members of an object that was read are a table already, and no name comes twice.
-/

namespace SecurityToken

/-- The members of an object that was read are those of a table. -/
theorem Json.exists_table_of_ofText? {text : String} {members : List (String × Json)}
    (hread : Json.ofText? text = some (.object members)) :
    ∃ table : Table Json, members = table.entries := by
  cases Json.distinct_of_ofText? hread with
  | object hnames _ => exact ⟨⟨members, hnames⟩, rfl⟩

namespace Bytes

theorem text?_eq_some {bytes : Bytes} {text : String} :
    text? bytes = some text ↔ bytes = ofText text := by
  constructor
  · intro htext
    unfold text? String.fromUTF8? at htext
    split at htext
    next hvalid =>
      obtain rfl := Option.some.inj htext
      simp [ofText, String.fromUTF8]
    next => contradiction
  · rintro rfl
    exact text?_ofText text

end Bytes

namespace Base64url

theorem isSymbol_symbol {value : Nat} (hvalue : value < 64) : isSymbol (symbol value) = true := by
  rw [isSymbol, value?_symbol hvalue]
  rfl

theorem all_isSymbol_encode (bytes : Bytes) : (encode bytes).all isSymbol = true := by
  fun_induction encode bytes with
  | case1 => rfl
  | case2 first =>
      have := first.toNat_lt
      simp only [List.all_cons, List.all_nil, Bool.and_true, Bool.and_eq_true]
      exact ⟨isSymbol_symbol (by omega), isSymbol_symbol (by omega)⟩
  | case3 first second =>
      have := first.toNat_lt
      have := second.toNat_lt
      simp only [List.all_cons, List.all_nil, Bool.and_true, Bool.and_eq_true]
      exact ⟨isSymbol_symbol (by omega), isSymbol_symbol (by omega), isSymbol_symbol (by omega)⟩
  | case4 first second third rest ih =>
      have := first.toNat_lt
      have := second.toNat_lt
      have := third.toNat_lt
      simp only [List.all_cons, Bool.and_eq_true]
      exact ⟨isSymbol_symbol (by omega), isSymbol_symbol (by omega), isSymbol_symbol (by omega),
        isSymbol_symbol (by omega), ih⟩

end Base64url

namespace Compact

theorem decodeSegment_eq_ok {name segment : String} {bytes : Bytes} :
    decodeSegment name segment = .ok bytes ↔ segment = encodeSegment bytes := by
  unfold decodeSegment encodeSegment
  constructor
  · intro hread
    cases hdecode : Base64url.decode segment.toList with
    | none =>
        rw [hdecode] at hread
        exact nomatch hread
    | some found =>
        rw [hdecode] at hread
        obtain rfl : found = bytes := Except.ok.inj hread
        rw [Base64url.encode_of_decode hdecode, String.ofList_toList]
  · rintro rfl
    rw [String.toList_ofList, Base64url.decode_encode]

/-- Whether a segment is a writing of a JSON object with certain members. -/
def HoldsObject (segment : String) (members : Table Json) : Prop :=
  ∃ text, segment = encodeSegment (Bytes.ofText text) ∧
    Json.ofText? text = some (.object members.entries)

theorem decodeObject_eq_ok {name segment : String} {members : Table Json} :
    decodeObject name segment = .ok members ↔ HoldsObject segment members := by
  unfold decodeObject
  rw [except_bind_eq_ok]
  constructor
  · rintro ⟨bytes, hbytes, hread⟩
    split at hread
    next found hfound =>
      obtain ⟨text, htext, hjson⟩ := Option.bind_eq_some_iff.1 hfound
      obtain ⟨table, rfl⟩ := Json.exists_table_of_ofText? hjson
      obtain rfl : table = members := by
        rw [← Table.ofList_entries table]
        exact Except.ok.inj hread
      obtain rfl := Bytes.text?_eq_some.1 htext
      exact ⟨text, decodeSegment_eq_ok.1 hbytes, hjson⟩
    next => exact nomatch hread
    next => exact nomatch hread
  · rintro ⟨text, rfl, hjson⟩
    refine ⟨Bytes.ofText text, decodeSegment_eq_ok.2 rfl, ?_⟩
    rw [Bytes.text?_ofText, Option.bind_some, hjson]
    simp only [Table.ofList_entries]

theorem HoldsObject.members_eq {segment : String} {members members' : Table Json}
    (hholds : HoldsObject segment members) (hholds' : HoldsObject segment members') :
    members = members' := by
  have hread : decodeObject "" segment = .ok members := decodeObject_eq_ok.2 hholds
  rw [decodeObject_eq_ok.2 hholds'] at hread
  exact (Except.ok.inj hread).symm

end Compact

end SecurityToken
