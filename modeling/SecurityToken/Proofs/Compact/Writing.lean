import SecurityToken.Proofs.Compact.Grammar
import SecurityToken.Proofs.Json.RoundTrip

/-!
# What the writer writes

No segment holds a dot, so the segments of what was joined are those that were joined. From there
the grammar takes over: a written text is read as the token that it was written for, provided that
its objects are read back from their texts. The grammar wants some parts filled, and asks for an
algorithm.
-/

namespace SecurityToken.Compact

/-! ### Segments -/

theorem all_isSymbol_encodeSegment (bytes : Bytes) :
    (encodeSegment bytes).toList.all Base64url.isSymbol = true := by
  rw [encodeSegment, String.toList_ofList]
  exact Base64url.all_isSymbol_encode bytes

theorem segments_join {parts : List String} (hsome : parts ≠ [])
    (hparts : ∀ part ∈ parts, '.' ∉ part.toList) : segments (join parts) = parts := by
  unfold segments join
  rw [String.toList_ofList, List.splitOn_intercalate]
  · simp [Function.comp_def]
  · intro part hpart
    obtain ⟨text, htext, rfl⟩ := List.mem_map.1 hpart
    exact hparts text htext
  · simpa using hsome

/-- A dot is no symbol of a segment. -/
theorem segments_join_encodeSegment {parts : List Bytes} (hsome : parts ≠ []) :
    segments (join (parts.map encodeSegment)) = parts.map encodeSegment := by
  refine segments_join (by simpa using hsome) ?_
  intro part hpart hdot
  obtain ⟨bytes, _, rfl⟩ := List.mem_map.1 hpart
  exact absurd (List.all_eq_true.1 (all_isSymbol_encodeSegment bytes) '.' hdot) (by decide)

/-- Joining in steps makes no difference. -/
theorem join_join (first second : String) (rest : List String) :
    join (join [first, second] :: rest) = join (first :: second :: rest) := by
  cases rest with
  | nil => exact join_singleton _
  | cons third rest => simp only [join_cons_cons, join_singleton, String.append_assoc]

/-- A character of a joined text is a dot, or of one of the parts. -/
theorem eq_dot_or_mem_of_mem_join {parts : List String} {character : Char}
    (hmem : character ∈ (join parts).toList) :
    character = '.' ∨ ∃ part ∈ parts, character ∈ part.toList := by
  induction parts with
  | nil => simp [join] at hmem
  | cons first rest ih =>
      cases rest with
      | nil =>
          rw [join_singleton] at hmem
          exact .inr ⟨first, List.mem_cons_self, hmem⟩
      | cons second rest =>
          have hjoin : (join (first :: second :: rest)).toList =
              first.toList ++ '.' :: (join (second :: rest)).toList := by
            simp [join_cons_cons]
          rw [hjoin, List.mem_append, List.mem_cons] at hmem
          rcases hmem with hfirst | rfl | hrest
          · exact .inr ⟨first, List.mem_cons_self, hfirst⟩
          · exact .inl rfl
          · rcases ih hrest with hdot | ⟨part, hpart, hin⟩
            · exact .inl hdot
            · exact .inr ⟨part, List.mem_cons_of_mem _ hpart, hin⟩

theorem segments_writeSigned (header : Header) (claims : ClaimSet) (signature : Bytes) :
    segments (writeSigned (encodeParts header claims) signature) =
      [Bytes.ofText header.json.text, Bytes.ofText claims.json.text, signature].map
        encodeSegment := by
  have hparts : writeSigned (encodeParts header claims) signature =
      join ([Bytes.ofText header.json.text, Bytes.ofText claims.json.text, signature].map
        encodeSegment) := join_join _ _ _
  rw [hparts, segments_join_encodeSegment (List.cons_ne_nil _ _)]

/-- The signature of a written token covers what it was made over. -/
theorem signingInput_writeSigned (header : Header) (claims : ClaimSet) (signature : Bytes) :
    signingInput (writeSigned (encodeParts header claims) signature) =
      encodeParts header claims := by
  rw [signingInput, segments_writeSigned]
  rfl

theorem segments_writeEncrypted (header : Header) (content : SealedContent) :
    segments (writeEncrypted (encodeJson header.json) content) =
      [Bytes.ofText header.json.text, content.encryptedKey, content.iv, content.ciphertext,
        content.tag].map encodeSegment := by
  have hparts : writeEncrypted (encodeJson header.json) content =
      join ([Bytes.ofText header.json.text, content.encryptedKey, content.iv, content.ciphertext,
        content.tag].map encodeSegment) := rfl
  rw [hparts, segments_join_encodeSegment (List.cons_ne_nil _ _)]

theorem write_eq_raw (token : Token) : write token = token.raw :=
  join_segments token.raw

/-! ### Reading what was written -/

theorem ofText_ne_nil {text : String} : Bytes.ofText text ≠ [] ↔ text ≠ "" :=
  not_congr ⟨fun hnil => Bytes.ofText_injective hnil, fun hempty => congrArg Bytes.ofText hempty⟩

theorem encodeSegment_object_ne_empty (members : List (String × Json)) :
    encodeSegment (Bytes.ofText (Json.object members).text) ≠ "" := by
  rw [encodeSegment_ne_empty, ofText_ne_nil]
  intro hempty
  have htext := congrArg String.toList hempty
  rw [Json.text, String.toList_ofList, Json.print] at htext
  cases htext

/-- Written segments have the shape of a token if there are as many as a token has and the first
ones are filled. -/
theorem checkShape_map_encodeSegment {allowUnsigned : Bool} {parts : List Bytes}
    (hcount : parts.length = 3 ∨ parts.length = 5)
    (hfirst : (parts.map encodeSegment).getD 0 "" ≠ "")
    (hsecond : parts.length ≠ 5 → (parts.map encodeSegment).getD 1 "" ≠ "") :
    checkShape allowUnsigned (parts.map encodeSegment) = .ok () := by
  rw [checkShape_eq_ok, List.length_map]
  refine ⟨hcount.imp id .inl, hfirst, hsecond, ?_⟩
  intro segment hsegment
  obtain ⟨bytes, _, rfl⟩ := List.mem_map.1 hsegment
  exact all_isSymbol_encodeSegment bytes

variable {header : Header}

theorem parse_writeSigned (allowUnsigned : Bool) {claims : ClaimSet}
    (hheader : Json.ofText? header.json.text = some header.json)
    (hclaims : Json.ofText? claims.json.text = some claims.json)
    (halgorithm : header.algorithm?.isSome = true) (signature : Bytes) :
    parse allowUnsigned (writeSigned (encodeParts header claims) signature) =
      .ok (.signed (writeSigned (encodeParts header claims) signature) header claims
        signature) := by
  have hsegments := segments_writeSigned header claims signature
  refine parse_eq_ok.2 ⟨?_, rfl, ?_, ?_, halgorithm, ?_, ?_⟩
  · rw [hsegments]
    exact checkShape_map_encodeSegment (.inl rfl) (encodeSegment_object_ne_empty _)
      fun _ => encodeSegment_object_ne_empty _
  · simp [hsegments]
  · rw [segment, hsegments]
    exact ⟨_, rfl, hheader⟩
  · rw [segment, hsegments]
    exact ⟨_, rfl, hclaims⟩
  · rw [segment, hsegments]
    rfl

theorem parse_writeEncrypted (allowUnsigned : Bool) {content : SealedContent}
    (hheader : Json.ofText? header.json.text = some header.json)
    (halgorithm : header.algorithm?.isSome = true) (hencryption : header.encryption?.isSome = true)
    (hiv : content.iv ≠ []) (hciphertext : content.ciphertext ≠ []) (htag : content.tag ≠ []) :
    parse allowUnsigned (writeEncrypted (encodeJson header.json) content) =
      .ok (.encrypted (writeEncrypted (encodeJson header.json) content) header content none) := by
  have hsegments := segments_writeEncrypted header content
  refine parse_eq_ok.2 ⟨?_, rfl, ?_, ?_, halgorithm, hencryption, ?_, rfl⟩
  · rw [hsegments]
    exact checkShape_map_encodeSegment (.inr rfl) (encodeSegment_object_ne_empty _)
      fun hfive => absurd rfl hfive
  · simp [hsegments]
  · rw [segment, hsegments]
    exact ⟨_, rfl, hheader⟩
  · rw [hsegments]
    exact decodeContent_eq_ok.2 ⟨rfl, rfl, rfl, rfl, hiv, hciphertext, htag⟩

end SecurityToken.Compact
