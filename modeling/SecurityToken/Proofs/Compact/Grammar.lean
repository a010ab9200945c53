import SecurityToken.Format
import SecurityToken.Proofs.Compact.Segment

/-!
# The grammar of compact tokens

The reader decides about a text in two places: by its shape, before anything is decoded, and segment
by segment afterwards. Together the checks accept the texts of one grammar. Because a segment has
one writing only, a token that was read tells its text, part by part.
-/

namespace SecurityToken.Compact

variable {allowUnsigned : Bool} {text : String} {token : Token}

/-- Whether a segment is the writing of some bytes. -/
def IsCanonical (segment : String) : Prop :=
  ∃ bytes, segment = encodeSegment bytes

theorem isSome_decode_iff {segment : String} :
    (Base64url.decode segment.toList).isSome = true ↔ IsCanonical segment := by
  constructor
  · intro hread
    obtain ⟨bytes, hbytes⟩ := Option.isSome_iff_exists.1 hread
    refine ⟨bytes, ?_⟩
    rw [encodeSegment, Base64url.encode_of_decode hbytes, String.ofList_toList]
  · rintro ⟨bytes, rfl⟩
    rw [encodeSegment, String.toList_ofList, Base64url.decode_encode]
    rfl

instance : DecidablePred IsCanonical :=
  fun _ => decidable_of_iff _ isSome_decode_iff

/-- Whether a segment holds a JSON object in which a member is a string. -/
def HoldsText (segment name : String) : Prop :=
  ∃ members value, HoldsObject segment members ∧ members.get? name = some (.string value)

/-- The grammar: how many segments there may be, and what each of them must hold. -/
structure IsToken (allowUnsigned : Bool) (text : String) : Prop where
  count : (segments text).length = 3 ∨ (segments text).length = 5 ∨
    ((segments text).length = 2 ∧ allowUnsigned = true)
  canonical : ∀ segment ∈ segments text, IsCanonical segment
  header : segment text 0 ≠ "" ∧ HoldsText (segment text 0) "alg"
  payload : (segments text).length ≠ 5 →
    segment text 1 ≠ "" ∧ ∃ members, HoldsObject (segment text 1) members
  sealing : (segments text).length = 5 →
    HoldsText (segment text 0) "enc" ∧ segment text 2 ≠ "" ∧ segment text 3 ≠ "" ∧
      segment text 4 ≠ ""

def Spells (text : String) : Token → Prop
  | .signed _ _ _ signature => encodeSegment signature = segment text 2
  | .encrypted _ _ content _ =>
      encodeSegment content.encryptedKey = segment text 1 ∧
        encodeSegment content.iv = segment text 2 ∧
        encodeSegment content.ciphertext = segment text 3 ∧
        encodeSegment content.tag = segment text 4

/-! ### The checks, one by one -/

theorem checkSize_eq_ok {maximum : Nat} :
    checkSize text maximum = .ok () ↔ text.utf8ByteSize ≤ maximum := by
  unfold checkSize
  split
  next hlarge => simp [Nat.not_le.2 hlarge]
  next hfits => simp [Nat.not_lt.1 hfits]

theorem checkShape_eq_ok {segments : List String} :
    checkShape allowUnsigned segments = .ok () ↔
      (segments.length = 3 ∨ segments.length = 5 ∨
        (segments.length = 2 ∧ allowUnsigned = true)) ∧
      segments.getD 0 "" ≠ "" ∧ (segments.length ≠ 5 → segments.getD 1 "" ≠ "") ∧
      ∀ segment ∈ segments, segment.toList.all Base64url.isSymbol = true := by
  unfold checkShape
  by_cases hcount : segments.length = 3 ∨ segments.length = 5 ∨
      (segments.length = 2 ∧ allowUnsigned = true)
  · rw [if_neg (not_not_intro hcount)]
    by_cases hempty : segments.getD 0 "" = "" ∨
        (segments.length ≠ 5 ∧ segments.getD 1 "" = "")
    · rw [if_pos hempty]
      constructor
      · intro h
        exact nomatch h
      · rintro ⟨_, hfirst, hsecond, _⟩
        rcases hempty with h | ⟨hfive, h⟩
        · exact absurd h hfirst
        · exact absurd h (hsecond hfive)
    · rw [if_neg hempty]
      rw [not_or, not_and] at hempty
      cases hforeign : segments.findIdx? fun segment =>
          !segment.toList.all Base64url.isSymbol with
      | some index =>
          have hsome := congrArg Option.isSome hforeign
          rw [List.findIdx?_isSome, Option.isSome_some, List.any_eq_true] at hsome
          obtain ⟨segment, hsegment, hbad⟩ := hsome
          constructor
          · intro h
            exact nomatch h
          · rintro ⟨_, _, _, hall⟩
            rw [hall segment hsegment] at hbad
            exact nomatch hbad
      | none =>
          rw [List.findIdx?_eq_none_iff] at hforeign
          simp only [true_iff]
          refine ⟨hcount, hempty.1, hempty.2, fun segment hsegment => ?_⟩
          simpa using hforeign segment hsegment
  · rw [if_pos hcount]
    constructor
    · intro h
      exact nomatch h
    · rintro ⟨h, _⟩
      exact absurd h hcount

theorem isCompact_eq_true :
    isCompact allowUnsigned text = true ↔ checkShape allowUnsigned (segments text) = .ok () := by
  unfold isCompact
  cases checkShape allowUnsigned (segments text) with
  | error malformation => simp [Except.isOk, Except.toBool]
  | ok value => simp [Except.isOk, Except.toBool]

theorem encodeSegment_injective : Function.Injective encodeSegment := by
  intro left right heq
  have hread : decodeSegment "" (encodeSegment left) = .ok right := decodeSegment_eq_ok.2 heq
  rw [decodeSegment_eq_ok.2 rfl] at hread
  exact Except.ok.inj hread

theorem encodeSegment_nil : encodeSegment [] = "" := rfl

theorem encodeSegment_ne_empty {bytes : Bytes} : encodeSegment bytes ≠ "" ↔ bytes ≠ [] := by
  rw [← encodeSegment_nil, Ne, encodeSegment_injective.eq_iff]

theorem decodeContent_eq_ok {segments : List String} {content : SealedContent} :
    decodeContent segments = .ok content ↔
      segments.getD 1 "" = encodeSegment content.encryptedKey ∧
      segments.getD 2 "" = encodeSegment content.iv ∧
      segments.getD 3 "" = encodeSegment content.ciphertext ∧
      segments.getD 4 "" = encodeSegment content.tag ∧
      content.iv ≠ [] ∧ content.ciphertext ≠ [] ∧ content.tag ≠ [] := by
  unfold decodeContent
  simp only [except_bind_eq_ok, decodeSegment_eq_ok]
  constructor
  · rintro ⟨encryptedKey, hkey, iv, hiv, ciphertext, hciphertext, tag, htag, hread⟩
    split at hread
    next => exact nomatch hread
    next hparts =>
      obtain rfl := Except.ok.inj hread
      rw [not_or, not_or] at hparts
      exact ⟨hkey, hiv, hciphertext, htag, hparts⟩
  · rintro ⟨hkey, hiv, hciphertext, htag, hparts⟩
    refine ⟨_, hkey, _, hiv, _, hciphertext, _, htag, ?_⟩
    rw [if_neg]
    rw [not_or, not_or]
    exact hparts

theorem decodeSignature_eq_ok {segments : List String} {signature : Bytes}
    (hcount : segments.length ≤ 3) :
    decodeSignature segments = .ok signature ↔
      segments.getD 2 "" = encodeSegment signature := by
  unfold decodeSignature
  by_cases hthree : segments.length = 3
  · rw [if_pos hthree]
    exact decodeSegment_eq_ok
  · rw [if_neg hthree]
    have hmissing : segments.getD 2 "" = encodeSegment [] := by
      rw [List.getD_eq_getElem?_getD, List.getElem?_eq_none (by omega)]
      rfl
    rw [hmissing, encodeSegment_injective.eq_iff]
    exact ⟨fun h => Except.ok.inj h, fun h => congrArg Except.ok h⟩

/-- What a text must hold to be read as a certain token, once its shape is right. -/
def Reads (text : String) : Token → Prop
  | .signed raw header claims signature =>
      raw = text ∧ (segments text).length ≠ 5 ∧ HoldsObject (segment text 0) header.members ∧
        header.algorithm?.isSome = true ∧ HoldsObject (segment text 1) claims.members ∧
        segment text 2 = encodeSegment signature
  | .encrypted raw header content inner =>
      raw = text ∧ (segments text).length = 5 ∧ HoldsObject (segment text 0) header.members ∧
        header.algorithm?.isSome = true ∧ header.encryption?.isSome = true ∧
        decodeContent (segments text) = .ok content ∧ inner = none

theorem parse_eq_ok :
    parse allowUnsigned text = .ok token ↔
      checkShape allowUnsigned (segments text) = .ok () ∧ Reads text token := by
  unfold parse
  simp only [except_bind_eq_ok]
  constructor
  · rintro ⟨_, hshape, members, hheader, hread⟩
    rw [decodeObject_eq_ok] at hheader
    refine ⟨hshape, ?_⟩
    split at hread
    next => exact nomatch hread
    next halgorithm =>
      rw [Bool.not_eq_true, Option.isNone_eq_false_iff] at halgorithm
      split at hread
      next hfive =>
        split at hread
        next => exact nomatch hread
        next hencryption =>
          rw [Bool.not_eq_true, Option.isNone_eq_false_iff] at hencryption
          obtain ⟨content, hcontent, hread⟩ := except_bind_eq_ok.1 hread
          obtain rfl := Except.ok.inj hread
          exact ⟨rfl, hfive, hheader, halgorithm, hencryption, hcontent, rfl⟩
      next hfive =>
        obtain ⟨claims, hclaims, hread⟩ := except_bind_eq_ok.1 hread
        obtain ⟨signature, hsignature, hread⟩ := except_bind_eq_ok.1 hread
        obtain rfl := Except.ok.inj hread
        have hcount : (segments text).length ≤ 3 := by
          rcases (checkShape_eq_ok.1 hshape).1 with h | h | ⟨h, _⟩ <;> omega
        exact ⟨rfl, hfive, hheader, halgorithm, decodeObject_eq_ok.1 hclaims,
          (decodeSignature_eq_ok hcount).1 hsignature⟩
  · rintro ⟨hshape, hreads⟩
    refine ⟨_, hshape, ?_⟩
    cases token with
    | signed raw header claims signature =>
        obtain ⟨rfl, hfive, hheader, halgorithm, hclaims, hsignature⟩ := hreads
        have hcount : (segments raw).length ≤ 3 := by
          rcases (checkShape_eq_ok.1 hshape).1 with h | h | ⟨h, _⟩ <;> omega
        have hnone : ¬header.algorithm?.isNone = true := by
          rwa [Bool.not_eq_true, Option.isNone_eq_false_iff]
        refine ⟨header.members, decodeObject_eq_ok.2 hheader, ?_⟩
        rw [if_neg hnone, if_neg hfive, except_bind_eq_ok]
        refine ⟨claims.members, decodeObject_eq_ok.2 hclaims, ?_⟩
        rw [except_bind_eq_ok]
        exact ⟨signature, (decodeSignature_eq_ok hcount).2 hsignature, rfl⟩
    | encrypted raw header content inner =>
        obtain ⟨rfl, hfive, hheader, halgorithm, hencryption, hcontent, rfl⟩ := hreads
        have hnone : ¬header.algorithm?.isNone = true := by
          rwa [Bool.not_eq_true, Option.isNone_eq_false_iff]
        have hnone' : ¬header.encryption?.isNone = true := by
          rwa [Bool.not_eq_true, Option.isNone_eq_false_iff]
        refine ⟨header.members, decodeObject_eq_ok.2 hheader, ?_⟩
        rw [if_neg hnone, if_pos hfive, if_neg hnone', except_bind_eq_ok]
        exact ⟨content, hcontent, rfl⟩

/-! ### The grammar -/

theorem segment_eq_getElem {index : Nat} (hindex : index < (segments text).length) :
    segment text index = (segments text)[index] := by
  rw [segment, List.getD_eq_getElem?_getD, List.getElem?_eq_getElem hindex, Option.getD_some]

theorem forall_mem_segments {holds : String → Prop} :
    (∀ segment ∈ segments text, holds segment) ↔
      ∀ index < (segments text).length, holds (segment text index) := by
  rw [List.forall_mem_iff_forall_getElem]
  constructor
  · intro h index hindex
    rw [segment_eq_getElem hindex]
    exact h index hindex
  · intro h index hindex
    rw [← segment_eq_getElem hindex]
    exact h index hindex

theorem HoldsObject.isCanonical {segment : String} {members : Table Json}
    (hholds : HoldsObject segment members) : IsCanonical segment := by
  obtain ⟨object, hsegment, _⟩ := hholds
  exact ⟨Bytes.ofText object, hsegment⟩

theorem text?_isSome {header : Header} {name : String} :
    (header.text? name).isSome = true ↔
      ∃ value, header.members.get? name = some (.string value) := by
  rw [Option.isSome_iff_exists]
  exact exists_congr fun _ => Json.bind_string?_eq_some

theorem holdsText_of_isSome {segment name : String} {header : Header}
    (hheader : HoldsObject segment header.members) (hname : (header.text? name).isSome = true) :
    HoldsText segment name := by
  obtain ⟨value, hvalue⟩ := text?_isSome.1 hname
  exact ⟨header.members, value, hheader, hvalue⟩

theorem isToken_of_reads (hshape : checkShape allowUnsigned (segments text) = .ok ())
    (hreads : Reads text token) : IsToken allowUnsigned text := by
  obtain ⟨hcount, hfirst, hsecond, _⟩ := checkShape_eq_ok.1 hshape
  cases token with
  | signed raw header claims signature =>
      obtain ⟨_, hfive, hheader, halgorithm, hclaims, hsignature⟩ := hreads
      refine ⟨hcount, forall_mem_segments.2 fun index hindex => ?_,
        ⟨hfirst, holdsText_of_isSome hheader halgorithm⟩,
        fun _ => ⟨hsecond hfive, claims.members, hclaims⟩, fun h => absurd h hfive⟩
      have hcases : index = 0 ∨ index = 1 ∨ index = 2 := by omega
      rcases hcases with rfl | rfl | rfl
      · exact hheader.isCanonical
      · exact hclaims.isCanonical
      · exact ⟨signature, hsignature⟩
  | encrypted raw header content inner =>
      obtain ⟨_, hfive, hheader, halgorithm, hencryption, hcontent, _⟩ := hreads
      obtain ⟨hkey, hiv, hciphertext, htag, hiv', hciphertext', htag'⟩ :=
        decodeContent_eq_ok.1 hcontent
      refine ⟨hcount, forall_mem_segments.2 fun index hindex => ?_,
        ⟨hfirst, holdsText_of_isSome hheader halgorithm⟩, fun h => absurd hfive h,
        fun _ => ⟨holdsText_of_isSome hheader hencryption, ?_, ?_, ?_⟩⟩
      · have hcases : index = 0 ∨ index = 1 ∨ index = 2 ∨ index = 3 ∨ index = 4 := by omega
        rcases hcases with rfl | rfl | rfl | rfl | rfl
        · exact hheader.isCanonical
        · exact ⟨content.encryptedKey, hkey⟩
        · exact ⟨content.iv, hiv⟩
        · exact ⟨content.ciphertext, hciphertext⟩
        · exact ⟨content.tag, htag⟩
      · rw [segment, hiv]
        exact encodeSegment_ne_empty.2 hiv'
      · rw [segment, hciphertext]
        exact encodeSegment_ne_empty.2 hciphertext'
      · rw [segment, htag]
        exact encodeSegment_ne_empty.2 htag'

theorem IsToken.checkShape (htext : IsToken allowUnsigned text) :
    checkShape allowUnsigned (segments text) = .ok () := by
  refine checkShape_eq_ok.2 ⟨htext.count, htext.header.1, fun h => (htext.payload h).1, ?_⟩
  intro segment hsegment
  obtain ⟨bytes, rfl⟩ := htext.canonical segment hsegment
  rw [encodeSegment, String.toList_ofList]
  exact Base64url.all_isSymbol_encode bytes

/-- A segment beyond the last is empty, and so the writing of no bytes. -/
theorem IsToken.isCanonical (htext : IsToken allowUnsigned text) (index : Nat) :
    IsCanonical (segment text index) := by
  by_cases hindex : index < (segments text).length
  · exact forall_mem_segments.1 htext.canonical index hindex
  · refine ⟨[], ?_⟩
    rw [segment, List.getD_eq_getElem?_getD, List.getElem?_eq_none (by omega)]
    rfl

theorem IsToken.exists_reads (htext : IsToken allowUnsigned text) :
    ∃ token, Reads text token := by
  obtain ⟨members, algorithm, hheader, halgorithm⟩ := htext.header.2
  have hsome : (Header.algorithm? ⟨members⟩).isSome = true := text?_isSome.2 ⟨algorithm, halgorithm⟩
  by_cases hfive : (segments text).length = 5
  · obtain ⟨⟨members', encryption, hheader', hencryption⟩, hiv', hciphertext', htag'⟩ :=
      htext.sealing hfive
    obtain rfl : members' = members := hheader'.members_eq hheader
    obtain ⟨key, hkey⟩ := htext.isCanonical 1
    obtain ⟨iv, hiv⟩ := htext.isCanonical 2
    obtain ⟨ciphertext, hciphertext⟩ := htext.isCanonical 3
    obtain ⟨tag, htag⟩ := htext.isCanonical 4
    rw [hiv, encodeSegment_ne_empty] at hiv'
    rw [hciphertext, encodeSegment_ne_empty] at hciphertext'
    rw [htag, encodeSegment_ne_empty] at htag'
    exact ⟨.encrypted text ⟨members'⟩ ⟨key, iv, ciphertext, tag⟩ none, rfl, hfive, hheader, hsome,
      text?_isSome.2 ⟨encryption, hencryption⟩,
      decodeContent_eq_ok.2 ⟨hkey, hiv, hciphertext, htag, hiv', hciphertext', htag'⟩, rfl⟩
  · obtain ⟨claims, hclaims⟩ := (htext.payload hfive).2
    obtain ⟨signature, hsignature⟩ := htext.isCanonical 2
    exact ⟨.signed text ⟨members⟩ ⟨claims⟩ signature, rfl, hfive, hheader, hsome, hclaims,
      hsignature⟩

theorem Reads.spells (hreads : Reads text token) : write token = text ∧ Spells text token := by
  cases token with
  | signed raw header claims signature =>
      obtain ⟨rfl, _, _, _, _, hsignature⟩ := hreads
      exact ⟨join_segments raw, hsignature.symm⟩
  | encrypted raw header content inner =>
      obtain ⟨rfl, _, _, _, _, hcontent, _⟩ := hreads
      obtain ⟨hkey, hiv, hciphertext, htag, _⟩ := decodeContent_eq_ok.1 hcontent
      exact ⟨join_segments raw, hkey.symm, hiv.symm, hciphertext.symm, htag.symm⟩

theorem compact_parse_eq_ok :
    TokenFormat.compact.parse allowUnsigned text = .ok token ↔
      parse allowUnsigned text = .ok token := by
  change (parse allowUnsigned text).mapError (·.fault) = .ok token ↔ _
  cases parse allowUnsigned text with
  | error malformation =>
      constructor
      · intro h
        exact nomatch h
      · intro h
        exact nomatch h
  | ok found =>
      constructor
      · intro h
        exact congrArg Except.ok (Except.ok.inj h)
      · intro h
        exact congrArg Except.ok (Except.ok.inj h)

/-- The reader accepts exactly the texts of the grammar, and refuses every other as malformed. A
token that was read tells its text and each segment of it. A text without the shape of a token is
never read. -/
theorem parse_iff_isToken_and_spells (allowUnsigned : Bool) (text : String) :
    ((∃ token, TokenFormat.compact.parse allowUnsigned text = .ok token) ↔
      IsToken allowUnsigned text) ∧
    (∀ fault, TokenFormat.compact.parse allowUnsigned text = .error fault →
      fault.kind = .malformedToken) ∧
    (∀ token, TokenFormat.compact.parse allowUnsigned text = .ok token →
      write token = text ∧ Spells text token ∧ isCompact allowUnsigned text = true) ∧
    (isCompact allowUnsigned text = false →
      ∃ fault, TokenFormat.compact.parse allowUnsigned text = .error fault) := by
  have hread : ∀ {token}, TokenFormat.compact.parse allowUnsigned text = .ok token ↔
      checkShape allowUnsigned (segments text) = .ok () ∧ Reads text token :=
    compact_parse_eq_ok.trans parse_eq_ok
  refine ⟨⟨?_, ?_⟩, ?_, ?_, ?_⟩
  · rintro ⟨token, htoken⟩
    obtain ⟨hshape, hreads⟩ := hread.1 htoken
    exact isToken_of_reads hshape hreads
  · intro htext
    obtain ⟨token, hreads⟩ := htext.exists_reads
    exact ⟨token, hread.2 ⟨htext.checkShape, hreads⟩⟩
  · intro fault hfault
    change (parse allowUnsigned text).mapError (·.fault) = .error fault at hfault
    cases hparse : parse allowUnsigned text with
    | error malformation =>
        rw [hparse] at hfault
        obtain rfl := Except.error.inj hfault
        rfl
    | ok token =>
        rw [hparse] at hfault
        exact nomatch hfault
  · intro token htoken
    obtain ⟨hshape, hreads⟩ := hread.1 htoken
    obtain ⟨hwrite, hspells⟩ := hreads.spells
    exact ⟨hwrite, hspells, isCompact_eq_true.2 hshape⟩
  · intro hcompact
    cases hparse : TokenFormat.compact.parse allowUnsigned text with
    | error fault => exact ⟨fault, rfl⟩
    | ok token =>
        rw [isCompact_eq_true.2 (hread.1 hparse).1] at hcompact
        exact nomatch hcompact

end SecurityToken.Compact
