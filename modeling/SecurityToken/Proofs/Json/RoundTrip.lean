import SecurityToken.Proofs.Basic
import SecurityToken.Proofs.Json.Scalar

/-!
# What is written is read back

A value that holds no double is read back from its text, provided that its objects name each member
once and that it is no deeper than the reader goes. Both hold of what the reader itself returns but
for doubles. The statement is about a text with other text behind it, so that the induction on the
value passes from items and members to arrays and objects.
-/

namespace SecurityToken.Json

/-- Holds no double, and has at most so many arrays and objects inside one another. -/
inductive Shallow : Nat → Json → Prop where
  | null {depth : Nat} : Shallow depth .null
  | bool {depth : Nat} (value : Bool) : Shallow depth (.bool value)
  | integer {depth : Nat} (value : WireInteger) : Shallow depth (.integer value)
  | string {depth : Nat} (value : String) : Shallow depth (.string value)
  | array {depth : Nat} {items : List Json} (hitems : ∀ item ∈ items, Shallow depth item) :
      Shallow (depth + 1) (.array items)
  | object {depth : Nat} {members : List (String × Json)}
      (hmembers : ∀ member ∈ members, Shallow depth member.2) :
      Shallow (depth + 1) (.object members)

/-- Whether every object inside names each of its members once. -/
inductive Distinct : Json → Prop where
  | null : Distinct .null
  | bool (value : Bool) : Distinct (.bool value)
  | integer (value : WireInteger) : Distinct (.integer value)
  | double (value : Float) : Distinct (.double value)
  | string (value : String) : Distinct (.string value)
  | array {items : List Json} (hitems : ∀ item ∈ items, Distinct item) : Distinct (.array items)
  | object {members : List (String × Json)} (hnames : (members.map Prod.fst).Nodup)
      (hmembers : ∀ member ∈ members, Distinct member.2) : Distinct (.object members)

theorem Shallow.mono {depth deeper : Nat} {value : Json} (hshallow : Shallow depth value)
    (hdepth : depth ≤ deeper) : Shallow deeper value := by
  induction hshallow generalizing deeper with
  | null => exact .null
  | bool value => exact .bool value
  | integer value => exact .integer value
  | string value => exact .string value
  | array hitems ih =>
      obtain ⟨deeper, rfl⟩ := Nat.exists_eq_add_one_of_ne_zero (Nat.ne_zero_of_lt hdepth)
      exact .array fun item hitem => ih item hitem (Nat.le_of_succ_le_succ hdepth)
  | object hmembers ih =>
      obtain ⟨deeper, rfl⟩ := Nat.exists_eq_add_one_of_ne_zero (Nat.ne_zero_of_lt hdepth)
      exact .object fun member hmember => ih member hmember (Nat.le_of_succ_le_succ hdepth)

/-! ### Lists with commas -/

section Lists

variable {α : Type}

/-- Whether a reader finds a value where it was written in front of other text. -/
def ReadsBack (item : Reader α) (written : List Char) (value : α) : Prop :=
  ∀ ⦃rest⦄, EndsNumber rest → item (written ++ rest) = some (value, rest)

def separated (write : α → List Char) : List α → List Char
  | [] => []
  | [item] => write item
  | item :: next :: rest => write item ++ ',' :: separated write (next :: rest)

def printMember (member : String × Json) : List Char :=
  quote member.1 ++ ':' :: print member.2

theorem printItems_eq (items : List Json) : printItems items = separated print items := by
  induction items with
  | nil => rfl
  | cons item rest ih =>
      cases rest with
      | nil => rfl
      | cons next rest => rw [printItems, ih, separated]

theorem printMembers_eq (members : List (String × Json)) :
    printMembers members = separated printMember members := by
  induction members with
  | nil => rfl
  | cons member rest ih =>
      cases rest with
      | nil => rfl
      | cons next rest =>
          obtain ⟨name, value⟩ := member
          rw [printMembers, ih, separated, printMember, List.append_assoc, List.cons_append]

/-- Whether a text begins otherwise than with a space or a certain character. -/
def BeginsApart (close : Char) (text : List Char) : Prop :=
  ∃ first rest, text = first :: rest ∧ isSpace first = false ∧ first ≠ close

theorem BeginsApart.append {close : Char} {text : List Char} (hbegins : BeginsApart close text)
    (rest : List Char) : BeginsApart close (text ++ rest) := by
  obtain ⟨first, tail, rfl, hspace, hclose⟩ := hbegins
  exact ⟨first, tail ++ rest, rfl, hspace, hclose⟩

theorem BeginsApart.length_pos {close : Char} {text : List Char}
    (hbegins : BeginsApart close text) : 0 < text.length := by
  obtain ⟨first, rest, rfl, _⟩ := hbegins
  exact Nat.succ_pos _

theorem skipSpace_cons {first : Char} (hspace : isSpace first = false) (rest : List Char) :
    skipSpace (first :: rest) = first :: rest := by
  unfold skipSpace
  rw [List.dropWhile_cons_of_neg]
  simp [hspace]

variable {item : Reader α} {write : α → List Char} {close : Char}

theorem length_le_length_separated {values : List α}
    (hbegins : ∀ value ∈ values, BeginsApart close (write value)) :
    values.length ≤ (separated write values).length := by
  induction values with
  | nil => simp
  | cons value rest ih =>
      have hfirst := (hbegins value List.mem_cons_self).length_pos
      cases rest with
      | nil => exact hfirst
      | cons next rest =>
          have hrest := ih fun value hvalue => hbegins value (List.mem_cons_of_mem _ hvalue)
          rw [separated, List.length_append]
          simp only [List.length_cons] at hrest ⊢
          omega

/-- Items are read back up to the closing character. By induction on the items. -/
theorem items?_separated (hspace : isSpace close = false) (hclose : close ≠ ',')
    (hends : ∀ rest, EndsNumber (close :: rest)) {values : List α} (hsome : values ≠ [])
    (hitem : ∀ value ∈ values, ReadsBack item (write value) value) {count : Nat}
    (hcount : values.length ≤ count) (rest : List Char) :
    items? item close count (separated write values ++ close :: rest) = some (values, rest) := by
  induction values generalizing count with
  | nil => exact absurd rfl hsome
  | cons value others ih =>
      obtain ⟨count, rfl⟩ := Nat.exists_eq_add_one_of_ne_zero (Nat.ne_zero_of_lt hcount)
      have hvalue := hitem value List.mem_cons_self
      cases others with
      | nil =>
          rw [separated, items?, hvalue (hends rest)]
          simp only [Option.bind_eq_bind, Option.bind_some, skipSpace_cons hspace, if_true]
      | cons next others =>
          have hrest := ih (List.cons_ne_nil _ _)
            (fun value hvalue => hitem value (List.mem_cons_of_mem _ hvalue))
            (Nat.le_of_succ_le_succ hcount)
          have hcomma : isSpace ',' = false := by decide
          rw [separated, List.append_assoc, List.cons_append, items?, hvalue (endsNumber_comma _)]
          simp only [Option.bind_eq_bind, Option.bind_some, skipSpace_cons hcomma, hrest]

theorem list?_separated (hspace : isSpace close = false) (hclose : close ≠ ',')
    (hends : ∀ rest, EndsNumber (close :: rest)) {values : List α}
    (hbegins : ∀ value ∈ values, BeginsApart close (write value))
    (hitem : ∀ value ∈ values, ReadsBack item (write value) value) (rest : List Char) :
    list? item close (separated write values ++ close :: rest) = some (values, rest) := by
  unfold list?
  cases values with
  | nil =>
      rw [separated, List.nil_append, skipSpace_cons hspace]
      simp only [if_true]
  | cons value others =>
      have hlength : (value :: others).length ≤
          (separated write (value :: others) ++ close :: rest).length := by
        rw [List.length_append]
        exact Nat.le_add_right_of_le (length_le_length_separated hbegins)
      have hstart : BeginsApart close (separated write (value :: others) ++ close :: rest) := by
        have hvalue := hbegins value List.mem_cons_self
        cases others with
        | nil => exact hvalue.append _
        | cons next others =>
            rw [separated, List.append_assoc]
            exact hvalue.append _
      rw [← items?_separated hspace hclose hends (List.cons_ne_nil value others) hitem hlength rest]
      obtain ⟨first, tail, htext, hfirst, hother⟩ := hstart
      rw [htext, skipSpace_cons hfirst]
      simp only [if_neg hother]

end Lists

/-! ### Values -/

theorem integerText_eq_cons (value : Int) :
    ∃ first rest, integerText value = first :: rest ∧ (first = '-' ∨ first.isDigit = true) := by
  unfold integerText
  by_cases hnegative : value < 0
  · rw [if_pos hnegative]
    exact ⟨'-', _, rfl, .inl rfl⟩
  · rw [if_neg hnegative]
    cases hdigits : Nat.toDigits 10 value.natAbs with
    | nil => exact absurd hdigits Nat.toDigits_ne_nil
    | cons first others =>
        have hdigit : first.isDigit = true :=
          Nat.isDigit_of_mem_toDigits (by decide) (by decide) (hdigits ▸ List.mem_cons_self)
        exact ⟨first, others, rfl, .inr hdigit⟩

theorem ne_of_beginsNumber {first : Char} (hfirst : first = '-' ∨ first.isDigit = true)
    {other : Char} (hminus : other ≠ '-') (hdigit : other.isDigit = false) : first ≠ other := by
  rintro rfl
  rcases hfirst with h | h
  · exact hminus h
  · rw [hdigit] at h
    cases h

theorem isSpace_of_beginsNumber {first : Char} (hfirst : first = '-' ∨ first.isDigit = true) :
    isSpace first = false := by
  by_contra hspace
  simp only [isSpace, Bool.not_eq_false, Bool.or_eq_true, beq_iff_eq] at hspace
  rcases hspace with ((rfl | rfl) | rfl) | rfl <;>
    exact ne_of_beginsNumber hfirst (by decide) (by decide) rfl

theorem beginsApart_integerText {close : Char} (value : Int)
    (hclose : close = ']' ∨ close = '}') : BeginsApart close (integerText value) := by
  obtain ⟨first, rest, htext, hfirst⟩ := integerText_eq_cons value
  refine ⟨first, rest, htext, isSpace_of_beginsNumber hfirst, ?_⟩
  rcases hclose with rfl | rfl <;> exact ne_of_beginsNumber hfirst (by decide) (by decide)

theorem Shallow.beginsApart {depth : Nat} {value : Json} (hshallow : Shallow depth value)
    {close : Char} (hclose : close = ']' ∨ close = '}') : BeginsApart close (print value) := by
  have hapart : ∀ {first : Char} {rest : List Char}, isSpace first = false →
      first ≠ ']' → first ≠ '}' → BeginsApart close (first :: rest) := by
    intro first rest hspace hbracket hbrace
    refine ⟨first, rest, rfl, hspace, ?_⟩
    rcases hclose with rfl | rfl
    · exact hbracket
    · exact hbrace
  cases hshallow with
  | null => exact hapart (by decide) (by decide) (by decide)
  | bool value => cases value <;> exact hapart (by decide) (by decide) (by decide)
  | integer value => exact beginsApart_integerText value.1 hclose
  | string value => exact hapart (by decide) (by decide) (by decide)
  | array hitems => exact hapart (by decide) (by decide) (by decide)
  | object hmembers => exact hapart (by decide) (by decide) (by decide)

theorem member?_printMember {value : Reader Json} {member : String × Json}
    (hread : ReadsBack value (print member.2) member.2) :
    ReadsBack (member? value) (printMember member) member := by
  intro rest hrest
  have hquote : isSpace '"' = false := by decide
  have hcolon : isSpace ':' = false := by decide
  unfold member? printMember quote
  simp only [List.cons_append, List.append_assoc, List.nil_append, skipSpace_cons hquote,
    stringBody?_quote, Option.bind_eq_bind, Option.bind_some, skipSpace_cons hcolon, hread hrest]

/-- A value that nothing else tells apart is a number. -/
theorem valueWith?_integerText (nested : Option (Reader Json)) (value : WireInteger) :
    ReadsBack (valueWith? nested) (integerText value.1) (.integer value) := by
  intro rest hrest
  obtain ⟨first, tail, htext, hfirst⟩ := integerText_eq_cons value.1
  rw [← number?_integerText value hrest, htext, List.cons_append]
  unfold valueWith?
  rw [skipSpace_cons (isSpace_of_beginsNumber hfirst)]
  have hother : ∀ {other : Char} {others : List Char}, other ≠ '-' → other.isDigit = false →
      first :: (tail ++ rest) ≠ other :: others := by
    intro other others hminus hdigit heq
    exact ne_of_beginsNumber hfirst hminus hdigit (List.cons.inj heq).1
  split
  next heq => exact absurd heq (hother (by decide) (by decide))
  next heq => exact absurd heq (hother (by decide) (by decide))
  next heq => exact absurd heq (hother (by decide) (by decide))
  next heq => exact absurd heq (hother (by decide) (by decide))
  next heq => exact absurd heq (hother (by decide) (by decide))
  next heq => exact absurd heq (hother (by decide) (by decide))
  next => rfl

theorem value?_integer (depth : Nat) (value : WireInteger) :
    ReadsBack (value? depth) (print (.integer value)) (.integer value) := by
  cases depth with
  | zero => exact valueWith?_integerText none value
  | succ depth => exact valueWith?_integerText (some (value? depth)) value

theorem value?_string (depth : Nat) (value : String) :
    ReadsBack (value? depth) (print (.string value)) (.string value) := by
  have hread : ∀ nested, ReadsBack (valueWith? nested) (quote value) (.string value) := by
    intro nested rest _
    have hquote : isSpace '"' = false := by decide
    unfold valueWith? quote
    simp only [List.cons_append, List.append_assoc, List.nil_append, skipSpace_cons hquote,
      stringBody?_quote, Option.map_some]
  cases depth with
  | zero => exact hread none
  | succ depth => exact hread (some (value? depth))

theorem value?_array {depth : Nat} {items : List Json}
    (hbegins : ∀ item ∈ items, BeginsApart ']' (print item))
    (hitems : ∀ item ∈ items, ReadsBack (value? depth) (print item) item) :
    ReadsBack (value? (depth + 1)) (print (.array items)) (.array items) := by
  intro rest _
  have hbracket : isSpace '[' = false := by decide
  have hread := list?_separated (by decide) (by decide) endsNumber_bracket hbegins hitems rest
  unfold value? valueWith? print
  simp only [List.cons_append, List.append_assoc, List.nil_append, skipSpace_cons hbracket,
    printItems_eq, hread, Option.bind_eq_bind, Option.bind_some]

theorem value?_object {depth : Nat} {members : List (String × Json)}
    (hnames : (members.map Prod.fst).Nodup)
    (hmembers : ∀ member ∈ members, ReadsBack (value? depth) (print member.2) member.2) :
    ReadsBack (value? (depth + 1)) (print (.object members)) (.object members) := by
  intro rest _
  have hbrace : isSpace '{' = false := by decide
  have hbegins : ∀ member ∈ members, BeginsApart '}' (printMember member) := by
    intro member _
    exact ⟨'"', _, rfl, by decide, by decide⟩
  have hread := list?_separated (by decide) (by decide) endsNumber_brace hbegins
    (fun member hmember => member?_printMember (hmembers member hmember)) rest
  have htable : (Table.ofList members).entries = members :=
    Table.entries_foldl_insert Table.empty members hnames
  unfold value? valueWith? print
  simp only [List.cons_append, List.append_assoc, List.nil_append, skipSpace_cons hbrace,
    printMembers_eq, hread, Option.bind_eq_bind, Option.bind_some, htable]

/-- By induction on the value, item by item and member by member. -/
theorem value?_print {depth : Nat} {value : Json} (hshallow : Shallow depth value)
    (hdistinct : Distinct value) : ReadsBack (value? depth) (print value) value := by
  induction hshallow with
  | null =>
      intro rest _
      cases ‹Nat› <;> rfl
  | bool value =>
      intro rest _
      cases ‹Nat› <;> cases value <;> rfl
  | integer value => exact value?_integer _ value
  | string value => exact value?_string _ value
  | array hitems ih =>
      cases hdistinct with
      | array hdistinct =>
          exact value?_array (fun item hitem => (hitems item hitem).beginsApart (.inl rfl))
            fun item hitem => ih item hitem (hdistinct item hitem)
  | object hmembers ih =>
      cases hdistinct with
      | object hnames hdistinct =>
          exact value?_object hnames fun member hmember =>
            ih member hmember (hdistinct member hmember)

theorem ofText?_text {value : Json} (hshallow : Shallow 127 value) (hdistinct : Distinct value) :
    ofText? value.text = some value := by
  have hread := value?_print hshallow hdistinct endsNumber_nil
  rw [List.append_nil] at hread
  unfold ofText? parse? text
  rw [String.toList_ofList, hread]
  rfl

/-! ### What was read -/

section Readings

variable {α : Type} {item : Reader α} {holds : α → Prop}

theorem forall_of_items? (hitem : ∀ {input value rest}, item input = some (value, rest) → holds value)
    {close : Char} {count : Nat} {input : List Char} {values : List α} {rest : List Char}
    (hread : items? item close count input = some (values, rest)) :
    ∀ value ∈ values, holds value := by
  induction count generalizing input values rest with
  | zero => cases hread
  | succ count ih =>
      simp only [items?, Option.bind_eq_bind, Option.bind_eq_some_iff] at hread
      obtain ⟨⟨first, tail⟩, hfirst, hread⟩ := hread
      split at hread
      · obtain ⟨⟨others, tail⟩, hothers, hread⟩ := Option.bind_eq_some_iff.1 hread
        obtain ⟨rfl, rfl⟩ := Prod.mk.inj (Option.some.inj hread)
        exact List.forall_mem_cons.2 ⟨hitem hfirst, ih hothers⟩
      · split at hread
        · obtain ⟨rfl, rfl⟩ := Prod.mk.inj (Option.some.inj hread)
          exact List.forall_mem_singleton.2 (hitem hfirst)
        · cases hread
      · cases hread

theorem forall_of_list? (hitem : ∀ {input value rest}, item input = some (value, rest) → holds value)
    {close : Char} {input : List Char} {values : List α} {rest : List Char}
    (hread : list? item close input = some (values, rest)) : ∀ value ∈ values, holds value := by
  unfold list? at hread
  split at hread
  · split at hread
    · obtain ⟨rfl, rfl⟩ := Prod.mk.inj (Option.some.inj hread)
      exact fun value hvalue => absurd hvalue List.not_mem_nil
    · exact forall_of_items? hitem hread
  · cases hread

end Readings

theorem forall_of_member? {holds : Json → Prop} {value : Reader Json}
    (hvalue : ∀ {input found rest}, value input = some (found, rest) → holds found)
    {input : List Char} {member : String × Json} {rest : List Char}
    (hread : member? value input = some (member, rest)) : holds member.2 := by
  unfold member? at hread
  split at hread
  · simp only [Option.bind_eq_bind, Option.bind_eq_some_iff] at hread
    obtain ⟨⟨name, tail⟩, _, hread⟩ := hread
    split at hread
    · obtain ⟨⟨content, tail⟩, hcontent, hread⟩ := Option.bind_eq_some_iff.1 hread
      obtain ⟨rfl, rfl⟩ := Prod.mk.inj (Option.some.inj hread)
      exact hvalue hcontent
    · cases hread
  · cases hread

/-- Whether no value lies inside. -/
def isLeaf : Json → Bool
  | array _ | object _ => false
  | _ => true

theorem isLeaf_of_word? {word : List Char} {meaning : Json} (hmeaning : meaning.isLeaf = true)
    {input : List Char} {value : Json} {rest : List Char}
    (hread : word? word meaning input = some (value, rest)) : value.isLeaf = true := by
  unfold word? at hread
  split at hread
  · obtain ⟨rfl, rfl⟩ := Prod.mk.inj (Option.some.inj hread)
    exact hmeaning
  · cases hread

theorem isLeaf_of_number? {input : List Char} {value : Json} {rest : List Char}
    (hread : number? input = some (value, rest)) : value.isLeaf = true := by
  unfold number? at hread
  simp only [Option.bind_eq_bind, Option.bind_eq_some_iff] at hread
  obtain ⟨⟨literal, tail⟩, _, found, hfound, hread⟩ := hread
  obtain ⟨rfl, rfl⟩ := Prod.mk.inj (Option.some.inj hread)
  unfold Literal.value? at hfound
  split at hfound
  · obtain rfl := Option.some.inj hfound
    rfl
  · obtain ⟨double, _, rfl⟩ := Option.map_eq_some_iff.1 hfound
    rfl

/-- The values that a reader finds inside an array or an object are those of the reader within. -/
theorem forall_of_valueWith? {nested : Option (Reader Json)} {inner outer : Json → Prop}
    (hnested : ∀ reader ∈ nested, ∀ {input value rest}, reader input = some (value, rest) →
      inner value)
    (hleaf : ∀ value : Json, value.isLeaf = true → outer value)
    (harray : nested.isSome = true → ∀ items, (∀ item ∈ items, inner item) → outer (.array items))
    (hobject : nested.isSome = true → ∀ table : Table Json,
      (∀ entry ∈ table.entries, inner entry.2) → outer (.object table.entries))
    {input : List Char} {value : Json} {rest : List Char}
    (hread : valueWith? nested input = some (value, rest)) : outer value := by
  unfold valueWith? at hread
  split at hread
  · obtain ⟨found, _, hfound⟩ := Option.map_eq_some_iff.1 hread
    obtain ⟨rfl, rfl⟩ := Prod.mk.inj hfound
    exact hleaf _ rfl
  · exact hleaf _ (isLeaf_of_word? rfl hread)
  · exact hleaf _ (isLeaf_of_word? rfl hread)
  · exact hleaf _ (isLeaf_of_word? rfl hread)
  · simp only [Option.bind_eq_bind, Option.bind_eq_some_iff] at hread
    obtain ⟨reader, hreader, ⟨items, tail⟩, hitems, hread⟩ := hread
    obtain ⟨rfl, rfl⟩ := Prod.mk.inj (Option.some.inj hread)
    exact harray (Option.isSome_of_mem hreader) items
      (forall_of_list? (hnested reader hreader) hitems)
  · simp only [Option.bind_eq_bind, Option.bind_eq_some_iff] at hread
    obtain ⟨reader, hreader, ⟨members, tail⟩, hmembers, hread⟩ := hread
    obtain ⟨rfl, rfl⟩ := Prod.mk.inj (Option.some.inj hread)
    refine hobject (Option.isSome_of_mem hreader) (Table.ofList members)
      (Table.forall_foldl_insert ?_ ?_)
    · exact fun member hmember => absurd hmember List.not_mem_nil
    · exact forall_of_list? (forall_of_member? (hnested reader hreader)) hmembers
  · exact hleaf _ (isLeaf_of_number? hread)

/-- What holds of every value without others inside, and of an array or an object one level up when it
holds of the values inside, holds of what was read. By induction on the levels. -/
theorem forall_of_value? {holds : Nat → Json → Prop}
    (hleaf : ∀ depth value, value.isLeaf = true → holds depth value)
    (harray : ∀ depth items, (∀ item ∈ items, holds depth item) → holds (depth + 1) (.array items))
    (hobject : ∀ depth (table : Table Json), (∀ entry ∈ table.entries, holds depth entry.2) →
      holds (depth + 1) (.object table.entries))
    {depth : Nat} {input : List Char} {value : Json} {rest : List Char}
    (hread : value? depth input = some (value, rest)) : holds depth value := by
  induction depth generalizing input value rest with
  | zero =>
      refine @forall_of_valueWith? none (holds 0) (holds 0) ?_ (hleaf 0) ?_ ?_ _ _ _ hread
      · exact fun reader hreader => absurd hreader (Option.not_mem_none reader)
      · exact fun hsome => nomatch hsome
      · exact fun hsome => nomatch hsome
  | succ depth ih =>
      refine forall_of_valueWith? ?_ (hleaf (depth + 1)) (fun _ => harray depth)
        (fun _ => hobject depth) hread
      intro reader hreader
      obtain rfl := Option.some.inj hreader
      exact ih

theorem value?_of_ofText? {text : String} {value : Json} (hread : ofText? text = some value) :
    ∃ rest, value? 127 text.toList = some (value, rest) := by
  unfold ofText? parse? at hread
  simp only [Option.bind_eq_bind, Option.bind_eq_some_iff] at hread
  obtain ⟨⟨found, rest⟩, hfound, hread⟩ := hread
  split at hread
  · obtain rfl := Option.some.inj hread
    exact ⟨rest, hfound⟩
  · cases hread

/-- What was read names each member once, in every object inside. -/
theorem distinct_of_ofText? {text : String} {value : Json} (hread : ofText? text = some value) :
    Distinct value := by
  obtain ⟨rest, hvalue⟩ := value?_of_ofText? hread
  refine @forall_of_value? (fun _ => Distinct) ?_ (fun _ _ => .array)
    (fun _ table => .object table.nodup) _ _ _ _ hvalue
  intro _ value hleaf
  cases value with
  | null => exact .null
  | bool value => exact .bool value
  | integer value => exact .integer value
  | double value => exact .double value
  | string value => exact .string value
  | array items => exact nomatch hleaf
  | object members => exact nomatch hleaf

/-- Holds no double, however deep inside. -/
inductive DoubleFree : Json → Prop where
  | null : DoubleFree .null
  | bool (value : Bool) : DoubleFree (.bool value)
  | integer (value : WireInteger) : DoubleFree (.integer value)
  | string (value : String) : DoubleFree (.string value)
  | array {items : List Json} (hitems : ∀ item ∈ items, DoubleFree item) :
      DoubleFree (.array items)
  | object {members : List (String × Json)} (hmembers : ∀ member ∈ members, DoubleFree member.2) :
      DoubleFree (.object members)

theorem Shallow.doubleFree {depth : Nat} {value : Json} (hshallow : Shallow depth value) :
    DoubleFree value := by
  induction hshallow with
  | null => exact .null
  | bool value => exact .bool value
  | integer value => exact .integer value
  | string value => exact .string value
  | array _ ih => exact .array ih
  | object _ ih => exact .object ih

/-- What was read is no deeper than the reader goes. -/
theorem shallow_of_ofText? {text : String} {value : Json} (hread : ofText? text = some value)
    (hfree : DoubleFree value) : Shallow 127 value := by
  obtain ⟨rest, hvalue⟩ := value?_of_ofText? hread
  refine @forall_of_value? (fun depth value => DoubleFree value → Shallow depth value) ?_ ?_ ?_
    _ _ _ _ hvalue hfree
  · intro depth value hleaf hfree
    cases hfree with
    | null => exact .null
    | bool value => exact .bool value
    | integer value => exact .integer value
    | string value => exact .string value
    | array _ => exact nomatch hleaf
    | object _ => exact nomatch hleaf
  · intro depth items hitems hfree
    cases hfree with
    | array hfree => exact .array fun item hitem => hitems item hitem (hfree item hitem)
  · intro depth table hentries hfree
    cases hfree with
    | object hfree => exact .object fun entry hentry => hentries entry hentry (hfree entry hentry)

/-! ### Plain values -/

section Plain

variable {depth : Nat}

/-- Whether a value is read back from its text with so many levels to go. -/
structure Plain (depth : Nat) (value : Json) : Prop where
  shallow : Shallow depth value
  distinct : Distinct value

theorem Plain.mono {deeper : Nat} {value : Json} (hplain : Plain depth value)
    (hdepth : depth ≤ deeper) : Plain deeper value :=
  ⟨hplain.shallow.mono hdepth, hplain.distinct⟩

theorem plain_string (value : String) : Plain depth (.string value) :=
  ⟨.string value, .string value⟩

theorem plain_integer (value : WireInteger) : Plain depth (.integer value) :=
  ⟨.integer value, .integer value⟩

theorem plain_array {items : List Json} (hitems : ∀ item ∈ items, Plain depth item) :
    Plain (depth + 1) (.array items) :=
  ⟨.array fun item hitem => (hitems item hitem).shallow,
    .array fun item hitem => (hitems item hitem).distinct⟩

theorem plain_object {table : Table Json} (hvalues : ∀ entry ∈ table.entries, Plain depth entry.2) :
    Plain (depth + 1) (.object table.entries) :=
  ⟨.object fun entry hentry => (hvalues entry hentry).shallow,
    .object table.nodup fun entry hentry => (hvalues entry hentry).distinct⟩

theorem Plain.of_array {items : List Json} (hplain : Plain (depth + 1) (.array items)) :
    ∀ item ∈ items, Plain depth item := by
  obtain ⟨hshallow, hdistinct⟩ := hplain
  cases hshallow with
  | array hshallow =>
      cases hdistinct with
      | array hdistinct => exact fun item hitem => ⟨hshallow item hitem, hdistinct item hitem⟩

theorem Plain.of_object {members : List (String × Json)}
    (hplain : Plain (depth + 1) (.object members)) : ∀ member ∈ members, Plain depth member.2 := by
  obtain ⟨hshallow, hdistinct⟩ := hplain
  cases hshallow with
  | object hshallow =>
      cases hdistinct with
      | object _ hdistinct =>
          exact fun member hmember => ⟨hshallow member hmember, hdistinct member hmember⟩

theorem plain_of_ofText? {text : String} {value : Json} (hread : ofText? text = some value)
    (hfree : DoubleFree value) : Plain 127 value :=
  ⟨shallow_of_ofText? hread hfree, distinct_of_ofText? hread⟩

theorem Plain.ofText?_text {value : Json} (hplain : Plain 127 value) :
    ofText? value.text = some value :=
  Json.ofText?_text hplain.shallow hplain.distinct

end Plain

end SecurityToken.Json
