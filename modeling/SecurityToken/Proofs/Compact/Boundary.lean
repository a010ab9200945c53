import Mathlib.Data.List.Forall2
import SecurityToken.Compact.Layout
import SecurityToken.Proofs.Compact.Writing

/-!
# Where segments end

The pass that looks for dots goes over bytes and knows nothing of characters. That it cuts between
characters is due to the encoding: the byte of a dot stands for a dot, and no other character has it
among its bytes. The invariant of the pass: what lies behind it is segments with dots between them,
and the beginning of one more, which it has open. So its ranges are those of the segments laid out
one byte apart, and every one of them can be cut out of the text.
-/

namespace SecurityToken

/-- Steps that each give a result give the list of them. -/
theorem mapM_eq_some_of_forall₂ {α β : Type} {f : α → Option β} {items : List α} {results : List β}
    (hitems : List.Forall₂ (fun item result => f item = some result) items results) :
    items.mapM f = some results := by
  induction hitems with
  | nil => rfl
  | cons hitem _ ih =>
      rw [List.mapM_cons, hitem, ih]
      rfl

/-! ### The bytes of characters -/

theorem Bytes.ofText_ofList_cons (character : Char) (rest : List Char) :
    ofText (String.ofList (character :: rest)) =
      String.utf8EncodeChar character ++ ofText (String.ofList rest) := by
  simp only [ofText, String.toByteArray_ofList]
  rw [List.utf8Encode_cons, List.utf8Encode_singleton, ByteArray.data_append, Array.toList_append,
    List.data_toByteArray, List.toList_toArray]

namespace Compact

namespace Layout

theorem utf8EncodeChar_dot : String.utf8EncodeChar '.' = [dot] := by
  decide

/-- What is not a dot has one other byte, or several that are none of the first 128. -/
theorem dot_notMem_utf8EncodeChar {character : Char} (hcharacter : character ≠ '.') :
    dot ∉ String.utf8EncodeChar character := by
  have hvalue : character.val.toNat ≠ 46 :=
    fun hvalue => hcharacter (Char.ext (UInt32.toNat_inj.1 hvalue))
  have hother {value : Nat} (hvalue : value % 256 ≠ 46) : dot ≠ UInt8.ofNat value := by
    intro heq
    have hnat : dot.toNat = value % 256 := congrArg UInt8.toNat heq
    exact hvalue hnat.symm
  unfold String.utf8EncodeChar
  simp only
  split_ifs <;> simp only [List.mem_cons, List.not_mem_nil, or_false, not_or]
  · exact hother (by omega)
  · exact ⟨hother (by omega), hother (by omega)⟩
  · exact ⟨hother (by omega), hother (by omega), hother (by omega)⟩
  · exact ⟨hother (by omega), hother (by omega), hother (by omega), hother (by omega)⟩

/-! ### The pass over the bytes -/

theorem rangesFrom_append {bytes : Bytes} (hbytes : dot ∉ bytes) (start index : Nat)
    (rest : Bytes) :
    rangesFrom start index (bytes ++ rest) = rangesFrom start (index + bytes.length) rest := by
  induction bytes generalizing index with
  | nil => rfl
  | cons byte bytes ih =>
      rw [List.mem_cons, not_or] at hbytes
      have hindex : index + (byte :: bytes).length = index + 1 + bytes.length := by
        rw [List.length_cons]
        omega
      rw [List.cons_append, rangesFrom, if_neg (Ne.symm hbytes.1), ih hbytes.2, hindex]

/-- The ranges of texts that follow one another from an offset on, with one byte between each two. -/
def laidOut (start : Nat) : List String → List ByteRange
  | [] => []
  | part :: rest =>
      ⟨start, start + part.utf8ByteSize⟩ :: laidOut (start + part.utf8ByteSize + 1) rest

/-- Where nothing was read since the last dot, the next segment is as it is. -/
theorem modifyHead_nil_append (parts : List (List Char)) : parts.modifyHead ([] ++ ·) = parts :=
  congrFun List.modifyHead_id parts

/-- By induction on the characters that are left. Those that were read since the last dot belong to
the segment that is open. -/
theorem rangesFrom_eq_laidOut (characters opened : List Char) (start : Nat) :
    rangesFrom start (start + (String.ofList opened).utf8ByteSize)
        (Bytes.ofText (String.ofList characters)) =
      laidOut start (((characters.splitOn '.').modifyHead (opened ++ ·)).map String.ofList) := by
  induction characters generalizing opened start with
  | nil => simp [Bytes.ofText, rangesFrom, laidOut]
  | cons character rest ih =>
      rw [Bytes.ofText_ofList_cons, List.splitOn_cons_eq_if_modifyHead]
      by_cases hdot : character = '.'
      · subst hdot
        have hrest := ih [] (start + (String.ofList opened).utf8ByteSize + 1)
        rw [String.ofList_nil, String.utf8ByteSize_empty, Nat.add_zero, modifyHead_nil_append]
          at hrest
        rw [utf8EncodeChar_dot, List.singleton_append, rangesFrom, if_pos rfl, hrest]
        simp [laidOut]
      · have hsize : (String.ofList (opened ++ [character])).utf8ByteSize =
            (String.ofList opened).utf8ByteSize + (String.utf8EncodeChar character).length := by
          simp
        have hopened : (opened ++ [character] ++ ·) = (opened ++ ·) ∘ (character :: ·) := by
          funext part
          simp
        rw [rangesFrom_append (dot_notMem_utf8EncodeChar hdot), Nat.add_assoc, ← hsize, ih, hopened]
        simp [hdot]

theorem ranges_ofText (text : String) : (ofText text).ranges = laidOut 0 (segments text) := by
  have hranges := rangesFrom_eq_laidOut text.toList [] 0
  rw [String.ofList_nil, String.utf8ByteSize_empty, String.ofList_toList, modifyHead_nil_append]
    at hranges
  exact hranges

end Layout

/-! ### What lies in a range -/

namespace ByteRange

variable {range : ByteRange} {text part : String}

theorem liesIn_of_slice? (hslice : range.slice? text = some part) : range.LiesIn text := by
  unfold slice? at hslice
  split at hslice
  next hlies => exact hlies
  next => cases hslice

/-- A range is cut out of a text just if it leaves a text before it and one behind it. -/
theorem slice?_eq_some :
    range.slice? text = some part ↔ ∃ before behind, text = before ++ part ++ behind ∧
      range = ⟨before.utf8ByteSize, (before ++ part).utf8ByteSize⟩ := by
  constructor
  · intro hslice
    have hlies : range.LiesIn text := liesIn_of_slice? hslice
    have horder : text.pos ⟨range.start⟩ hlies.start ≤ text.pos ⟨range.stop⟩ hlies.stop :=
      hlies.ordered
    unfold slice? at hslice
    rw [dif_pos hlies, Option.some_inj, String.extract_eq_copy_slice _ _ horder] at hslice
    obtain ⟨before, behind, hbefore, hbehind⟩ :=
      String.copy_slice_eq_iff_splits.1 ⟨horder, hslice⟩
    have hstart : range.start = before.utf8ByteSize :=
      congrArg String.Pos.Raw.byteIdx hbefore.offset_eq_rawEndPos
    have hstop : range.stop = (before ++ part).utf8ByteSize :=
      congrArg String.Pos.Raw.byteIdx hbehind.offset_eq_rawEndPos
    refine ⟨before, behind, hbehind.eq_append, ?_⟩
    rw [← hstart, ← hstop]
  · rintro ⟨before, behind, rfl, rfl⟩
    have hlies : LiesIn ⟨before.utf8ByteSize, (before ++ part).utf8ByteSize⟩
        (before ++ part ++ behind) := by
      refine ⟨?_, String.Pos.Raw.isValid_rawEndPos.append_right behind, ?_⟩
      · rw [String.append_assoc]
        exact String.Pos.Raw.isValid_rawEndPos.append_right (part ++ behind)
      · rw [String.utf8ByteSize_append]
        exact Nat.le_add_right _ _
    have hbefore : ((before ++ part ++ behind).pos ⟨before.utf8ByteSize⟩ hlies.start).Splits before
        (part ++ behind) := ⟨String.append_assoc, rfl⟩
    have hbehind : ((before ++ part ++ behind).pos ⟨(before ++ part).utf8ByteSize⟩
        hlies.stop).Splits (before ++ part) behind := ⟨rfl, rfl⟩
    obtain ⟨horder, hslice⟩ :=
      String.copy_slice_eq_iff_splits.2 ⟨before, behind, hbefore, hbehind⟩
    unfold slice?
    rw [dif_pos hlies, String.extract_eq_copy_slice _ _ horder, hslice]

theorem LiesIn.stop_le (hlies : range.LiesIn text) : range.stop ≤ text.utf8ByteSize :=
  hlies.stop.le_utf8ByteSize

end ByteRange

/-! ### The ranges of segments -/

theorem utf8ByteSize_dot : ".".utf8ByteSize = 1 := rfl

namespace Layout

variable {text : String}

/-- By induction on the parts, with what was passed over left general. -/
theorem slices_laidOut {before : String} {parts : List String}
    (htext : text = before ++ join parts) :
    List.Forall₂ (fun range part => range.slice? text = some part)
      (laidOut before.utf8ByteSize parts) parts := by
  induction parts generalizing before with
  | nil => exact .nil
  | cons part rest ih =>
      have hsize : before.utf8ByteSize + part.utf8ByteSize = (before ++ part).utf8ByteSize :=
        String.utf8ByteSize_append.symm
      rw [laidOut, hsize]
      cases rest with
      | nil =>
          refine .cons (ByteRange.slice?_eq_some.2 ⟨before, "", ?_, rfl⟩) .nil
          rw [htext, join_singleton, String.append_empty]
      | cons next rest =>
          rw [join_cons_cons] at htext
          refine .cons (ByteRange.slice?_eq_some.2 ⟨before, "." ++ join (next :: rest), ?_, rfl⟩) ?_
          · simp only [htext, String.append_assoc]
          · rw [← utf8ByteSize_dot, ← String.utf8ByteSize_append]
            apply ih
            simp only [htext, String.append_assoc]

theorem slices_ofText (text : String) :
    List.Forall₂ (fun range part => range.slice? text = some part) (ofText text).ranges
      (segments text) := by
  have htext : text = "" ++ join (segments text) := by
    rw [join_segments, String.empty_append]
  rw [ranges_ofText]
  exact slices_laidOut htext

theorem segments?_ofText (text : String) : (ofText text).segments? = some (segments text) :=
  mapM_eq_some_of_forall₂ (slices_ofText text)

theorem count_ofText (text : String) : (ofText text).count = (segments text).length :=
  (slices_ofText text).length_eq

theorem segment?_ofText (text : String) (index : Nat) :
    (ofText text).segment? index = some (segment text index) := by
  have hslices := slices_ofText text
  have hcount : (ofText text).ranges.length = (segments text).length := hslices.length_eq
  unfold segment?
  by_cases hindex : index < (segments text).length
  · have hrange : index < (ofText text).ranges.length := hcount ▸ hindex
    rw [List.getElem?_eq_getElem hrange, segment_eq_getElem hindex]
    exact hslices.get hrange hindex
  · have hrange : (ofText text).ranges.length ≤ index := by omega
    rw [List.getElem?_eq_none hrange, segment, List.getD_eq_getElem?_getD,
      List.getElem?_eq_none (by omega)]
    rfl

/-- The first two segments are laid out as one. -/
theorem signingInput?_ofText (text : String) :
    (ofText text).signingInput? = some (signingInput text) := by
  have hjoin : join (segments text) = text := join_segments text
  unfold signingInput? signingInput
  rw [ranges_ofText]
  rcases hsegments : segments text with _ | ⟨head, _ | ⟨payload, rest⟩⟩
  · rw [hsegments] at hjoin
    exact congrArg some hjoin.symm
  · rw [hsegments] at hjoin
    exact congrArg some hjoin.symm
  · have htext : text = "" ++ join (join [head, payload] :: rest) := by
      rw [join_join, ← hsegments, hjoin, String.empty_append]
    have hsize : "".utf8ByteSize + (join [head, payload]).utf8ByteSize =
        0 + head.utf8ByteSize + 1 + payload.utf8ByteSize := by
      simp [join_cons_cons, join_singleton, utf8ByteSize_dot]
    obtain ⟨hslice, _⟩ := List.forall₂_cons.1 (slices_laidOut htext)
    rw [hsize] at hslice
    exact hslice

end Layout

/-! ### The dots of a text -/

section Dots

variable {characters : List Char} {text : String}

theorem length_splitOn_dot (characters : List Char) :
    (characters.splitOn '.').length = characters.count '.' + 1 := by
  induction characters with
  | nil => rfl
  | cons character rest ih =>
      rw [List.splitOn_cons_eq_if_modifyHead, List.count_cons]
      split
      next => simp [ih]
      next => simp [ih]

theorem dot_notMem_of_mem_splitOn (characters : List Char) :
    ∀ part ∈ characters.splitOn '.', '.' ∉ part := by
  induction characters with
  | nil => simp
  | cons character rest ih =>
      rw [List.splitOn_cons_eq_if_modifyHead]
      by_cases hdot : character = '.'
      · simpa [hdot] using ih
      · obtain ⟨part, parts, hparts⟩ := List.exists_cons_of_ne_nil (List.splitOn_ne_nil '.' rest)
        rw [hparts, List.forall_mem_cons] at ih
        rw [if_neg (by simpa using hdot), hparts, List.modifyHead_cons, List.forall_mem_cons]
        exact ⟨List.not_mem_cons_of_ne_of_not_mem (Ne.symm hdot) ih.1, ih.2⟩

theorem length_segments (text : String) :
    (segments text).length = text.toList.count '.' + 1 := by
  rw [segments, List.length_map, length_splitOn_dot]

theorem dot_notMem_of_mem_segments (text : String) :
    ∀ segment ∈ segments text, '.' ∉ segment.toList := by
  intro segment hsegment
  obtain ⟨part, hpart, rfl⟩ := List.mem_map.1 hsegment
  rw [String.toList_ofList]
  exact dot_notMem_of_mem_splitOn text.toList part hpart

/-- With fewer than two dots there are two segments at most, and with more there is one behind
them. -/
theorem signingInput_eq_self (hdots : text.toList.count '.' < 2) : signingInput text = text := by
  have hlength : (segments text).length ≤ 2 := by
    rw [length_segments]
    omega
  rw [signingInput, List.take_of_length_le hlength, join_segments]

theorem exists_eq_signingInput_append (hdots : 2 ≤ text.toList.count '.') :
    ∃ behind, text = signingInput text ++ "." ++ behind ∧
      (signingInput text).toList.count '.' = 1 := by
  have hlength : 2 < (segments text).length := by
    rw [length_segments]
    omega
  have hdotFree := dot_notMem_of_mem_segments text
  have hjoin : join (segments text) = text := join_segments text
  unfold signingInput
  generalize segments text = parts at hlength hdotFree hjoin ⊢
  rcases parts with _ | ⟨head, _ | ⟨payload, _ | ⟨third, rest⟩⟩⟩
  · simp at hlength
  · simp at hlength
  · simp at hlength
  · have htwo : segments (join [head, payload]) = [head, payload] := by
      refine segments_join (List.cons_ne_nil _ _) ?_
      simp only [List.forall_mem_cons] at hdotFree
      simp [hdotFree]
    have hcount := length_segments (join [head, payload])
    rw [htwo] at hcount
    refine ⟨join (third :: rest), ?_, ?_⟩
    · rw [← hjoin, ← join_join, join_cons_cons]
      rfl
    · exact (Nat.succ.inj hcount).symm

end Dots

/-! ### The cut -/

/-- Whether a layout cuts a text at its dots and nowhere else, and all that is asked of it lies in
the text and is what was meant. -/
structure Layout.CutsAtDots (layout : Layout) (text : String) : Prop where
  text_eq : layout.text = text
  count : layout.count = text.toList.count '.' + 1
  segments : layout.segments? = some (Compact.segments text)
  length : (Compact.segments text).length = layout.count
  dotFree : ∀ segment ∈ Compact.segments text, '.' ∉ segment.toList
  joined : join (Compact.segments text) = text
  segment : ∀ index, layout.segment? index = some (Compact.segment text index)
  indexed : ∀ index (hindex : index < (Compact.segments text).length),
    Compact.segment text index = (Compact.segments text)[index]
  beyond : ∀ index, (Compact.segments text).length ≤ index → Compact.segment text index = ""
  signingInput : layout.signingInput? = some (Compact.signingInput text)
  fewDots : text.toList.count '.' < 2 → Compact.signingInput text = text
  manyDots : 2 ≤ text.toList.count '.' → ∃ behind,
    text = Compact.signingInput text ++ "." ++ behind ∧
      (Compact.signingInput text).toList.count '.' = 1
  liesIn : ∀ range ∈ layout.ranges, range.LiesIn text
  bounded : ∀ range ∈ layout.ranges, range.stop ≤ text.utf8ByteSize

theorem Layout.liesIn_of_mem_ranges {text : String} {range : ByteRange}
    (hrange : range ∈ (ofText text).ranges) : range.LiesIn text := by
  obtain ⟨index, hindex, rfl⟩ := List.getElem_of_mem hrange
  have hslices := slices_ofText text
  have hslice := hslices.get hindex (hslices.length_eq ▸ hindex)
  exact ByteRange.liesIn_of_slice? hslice

/-- The pass over the bytes of a text cuts it at its dots, and cuts no character in two. -/
theorem Layout.ofText_cutsAtDots (text : String) : (ofText text).CutsAtDots text where
  text_eq := rfl
  count := (count_ofText text).trans (length_segments text)
  segments := segments?_ofText text
  length := (count_ofText text).symm
  dotFree := dot_notMem_of_mem_segments text
  joined := join_segments text
  segment := segment?_ofText text
  indexed _ := segment_eq_getElem
  beyond index hindex := by
    rw [Compact.segment, List.getD_eq_getElem?_getD, List.getElem?_eq_none hindex]
    rfl
  signingInput := signingInput?_ofText text
  fewDots := signingInput_eq_self
  manyDots := exists_eq_signingInput_append
  liesIn _ := liesIn_of_mem_ranges
  bounded _ hrange := (liesIn_of_mem_ranges hrange).stop_le

/-- The letter between the dots has two bytes. -/
example : (Layout.ofText ".é.").ranges = [⟨0, 0⟩, ⟨1, 3⟩, ⟨4, 4⟩] := by decide

end Compact

end SecurityToken
