import SecurityToken.Handler.Creation
import SecurityToken.Proofs.Compact.Writing

/-!
# What a draft writes

The claims and the header of a token hold what its draft gave, strings, integers, and arrays in which
claims of one name meet. Such an array is one level deeper than the claims in it, and the claim set
one level deeper than its members; with the two levels to spare, every value that a draft may hold is
read back from the texts of both.
-/

namespace SecurityToken

open Json

/-! ### Claims -/

/-- The value of a claim was read from a text, or is a string. -/
theorem Claim.distinct_json (claim : Claim) : Distinct claim.json := by
  have hread : Distinct ((Json.ofText? claim.value).getD (.string claim.value)) := by
    cases hread : Json.ofText? claim.value with
    | none => exact .string claim.value
    | some value => exact distinct_of_ofText? hread
  unfold Claim.json
  cases claim.kind with
  | string => exact .string claim.value
  | null => exact .null
  | integer => exact hread
  | double => exact hread
  | boolean => exact hread
  | json => exact hread

/-- Whether a value is plain, or an array of plain values, which is one level deeper. -/
def Json.Gathered (depth : Nat) (value : Json) : Prop :=
  Plain depth value ∨ ∃ items, value = .array items ∧ ∀ item ∈ items, Plain depth item

theorem Json.Gathered.plain {depth : Nat} {value : Json} (hvalue : Gathered depth value) :
    Plain (depth + 1) value := by
  rcases hvalue with hplain | ⟨items, rfl, hitems⟩
  · exact hplain.mono (Nat.le_succ depth)
  · exact plain_array hitems

namespace ClaimSet

theorem gathered_add {depth : Nat} {claims : ClaimSet}
    (hclaims : ∀ entry ∈ claims.members.entries, Gathered (depth + 1) entry.2) (name : String)
    {value : Json} (hvalue : Plain (depth + 1) value) :
    ∀ entry ∈ (claims.add name value).members.entries, Gathered (depth + 1) entry.2 := by
  unfold add
  split
  next => exact Table.forall_insert hclaims name (.inl hvalue)
  next items hfound =>
    have hitems : ∀ item ∈ items, Plain (depth + 1) item := by
      rcases hclaims _ (Table.get?_eq_some.1 hfound) with hplain | ⟨_, heq, hitems⟩
      · exact fun item hitem => (hplain.of_array item hitem).mono (Nat.le_succ depth)
      · cases heq
        exact hitems
    exact Table.forall_insert hclaims name
      (.inr ⟨_, rfl, List.forall_mem_append.2 ⟨hitems, List.forall_mem_singleton.2 hvalue⟩⟩)
  next first hother hfound =>
    have hfirst : Plain (depth + 1) first := by
      rcases hclaims _ (Table.get?_eq_some.1 hfound) with hplain | ⟨items, rfl, _⟩
      · exact hplain
      · exact absurd rfl (hother items)
    exact Table.forall_insert hclaims name
      (.inr ⟨_, rfl, List.forall_mem_cons.2 ⟨hfirst, List.forall_mem_singleton.2 hvalue⟩⟩)

theorem gathered_ofEntries {depth : Nat} {entries : List (String × Json)}
    (hentries : ∀ entry ∈ entries, Plain (depth + 1) entry.2) :
    ∀ entry ∈ (ofEntries entries).members.entries, Gathered (depth + 1) entry.2 := by
  refine List.foldlRecOn (motive := fun claims : ClaimSet =>
    ∀ entry ∈ claims.members.entries, Gathered (depth + 1) entry.2) entries _ ?_ ?_
  · exact fun entry hentry => absurd hentry List.not_mem_nil
  · exact fun claims hclaims entry hentry => gathered_add hclaims entry.1 (hentries entry hentry)

end ClaimSet

namespace Draft

variable {draft : Draft}

/-- Whether what a draft gives for its claims and its header holds no double and is no deeper than
125 levels. A header is a table throughout, whatever is in it. -/
structure Plain (draft : Draft) : Prop where
  claims : ∀ claim ∈ draft.claims, Shallow 125 claim.json
  header : ∀ member ∈ Creation.extra draft.header, Shallow 125 member.2
  distinct : ∀ member ∈ Creation.extra draft.header, Distinct member.2

theorem plain_of_mem_members {member : String × Json} (hmember : member ∈ draft.members) :
    Json.Plain 1 member.2 := by
  unfold members at hmember
  simp only [List.mem_append, Option.mem_toList, Option.map_eq_some_iff] at hmember
  rcases hmember with (⟨issuer, _, rfl⟩ | ⟨value, hvalue, rfl⟩) | ⟨raw, _, rfl⟩
  · exact plain_string issuer
  · unfold audienceValue? at hvalue
    split at hvalue
    · cases hvalue
    · obtain rfl := Option.some.inj hvalue
      exact plain_string _
    · obtain rfl := Option.some.inj hvalue
      refine plain_array fun item hitem => ?_
      obtain ⟨audience, _, rfl⟩ := List.mem_map.1 hitem
      exact plain_string audience
  · exact plain_string raw

theorem plain_of_mem_period {period : Period} {member : String × Json}
    (hmember : member ∈ period.members) : Json.Plain 1 member.2 := by
  unfold Period.members at hmember
  simp only [List.mem_append, Option.mem_toList, Option.map_eq_some_iff] at hmember
  rcases hmember with (⟨_, _, rfl⟩ | ⟨_, _, rfl⟩) | ⟨_, _, rfl⟩ <;> exact plain_integer _

/-- The claim set of a draft is read back from its text. -/
theorem Plain.ofText?_claims (hdraft : draft.Plain) {mapping : ClaimMapping} {settings : Settings}
    {now : Instant} {claims : ClaimSet}
    (hclaims : draft.claimSet mapping settings now = .ok claims) :
    Json.ofText? claims.json.text = some claims.json := by
  obtain ⟨period, _, hclaims⟩ := except_bind_eq_ok.1 hclaims
  obtain rfl := Except.ok.inj hclaims
  refine Json.Plain.ofText?_text (plain_object ?_)
  refine List.foldlRecOn (motive := fun claims : ClaimSet =>
    ∀ entry ∈ claims.members.entries, Json.Plain 126 entry.2) (draft.members ++ period.members)
    _ ?_ ?_
  · intro entry hentry
    refine Gathered.plain (ClaimSet.gathered_ofEntries ?_ entry hentry)
    intro entry hentry
    obtain ⟨claim, hclaim, rfl⟩ := List.mem_map.1 hentry
    exact ⟨hdraft.claims claim hclaim, claim.distinct_json⟩
  · intro claims hclaims member hmember
    refine Table.forall_insert hclaims member.1 ?_
    rcases List.mem_append.1 hmember with hmember | hmember
    · exact (plain_of_mem_members hmember).mono (by decide)
    · exact (plain_of_mem_period hmember).mono (by decide)

end Draft

/-! ### Headers -/

namespace Header

theorem get?_insert (header : Header) (name other : String) (value : Json) :
    (header.insert name value).get? other = if other = name then some value else header.get? other :=
  Table.get?_insert header.members name other value

theorem text?_insertText_self (header : Header) (name value : String) :
    (header.insertText name value).text? name = some value := by
  rw [text?, insertText, get?_insert, if_pos rfl]
  rfl

theorem text?_insert_of_ne (header : Header) {name other : String} (value : Json)
    (hother : other ≠ name) : (header.insert name value).text? other = header.text? other := by
  rw [text?, get?_insert, if_neg hother]
  rfl

theorem text?_insertText?_of_ne (header : Header) {name other : String} (value : Option String)
    (hother : other ≠ name) : (header.insertText? name value).text? other = header.text? other := by
  cases value with
  | none => rfl
  | some value => exact text?_insert_of_ne header _ hother

end Header

namespace Creation

theorem text?_hinted {name : String} (hkid : name ≠ "kid") (hx5t : name ≠ "x5t") (header : Header)
    (key : Key) : (hinted header key).text? name = header.text? name := by
  unfold hinted
  rw [Header.text?_insertText?_of_ne _ _ hx5t, Header.text?_insertText?_of_ne _ _ hkid]

theorem ne_of_mem_extra {header : Header} {member : String × Json}
    (hmember : member ∈ extra header) : "alg" ≠ member.1 ∧ "enc" ≠ member.1 := by
  have hnames := (List.mem_filter.1 hmember).2
  simp only [Bool.and_eq_true, bne_iff_ne] at hnames
  exact ⟨hnames.1.symm, hnames.2.symm⟩

/-- No member that a draft adds stands above the algorithm. -/
theorem algorithm?_signedHeader (draft : Draft) (algorithm : String) :
    (signedHeader draft algorithm).algorithm? = some algorithm := by
  refine List.foldlRecOn (motive := fun header : Header => header.algorithm? = some algorithm)
    (extra draft.header) _ ?_ ?_
  · have hframe : Header.text? ((Header.empty.insertText "alg" algorithm).insertText "typ" "JWT")
        "alg" = some algorithm := by
      rw [Header.insertText, Header.text?_insert_of_ne _ _ (by decide),
        Header.text?_insertText_self]
    cases hsigning : draft.signing with
    | none => exact hframe
    | some credential => exact (text?_hinted (by decide) (by decide) _ _).trans hframe
  · intro header hheader member hmember
    rw [← hheader]
    exact header.text?_insert_of_ne member.2 (ne_of_mem_extra hmember).1

theorem text?_encryptedHeader (key : Key) (algorithm encryption : String) :
    (encryptedHeader key algorithm encryption).algorithm? = some algorithm ∧
      (encryptedHeader key algorithm encryption).encryption? = some encryption := by
  have hframe : ∀ {name : String} (header : Header), name ≠ "kid" → name ≠ "x5t" → name ≠ "typ" →
      name ≠ "cty" →
      (((hinted header key).insertText "typ" "JWT").insertText "cty" "JWT").text? name =
        header.text? name := by
    intro name header hkid hx5t htyp hcty
    rw [Header.insertText, Header.text?_insert_of_ne _ _ hcty, Header.insertText,
      Header.text?_insert_of_ne _ _ htyp, text?_hinted hkid hx5t]
  constructor
  · refine (hframe _ (by decide) (by decide) (by decide) (by decide)).trans ?_
    rw [Header.insertText, Header.text?_insert_of_ne _ _ (by decide), Header.text?_insertText_self]
  · refine (hframe _ (by decide) (by decide) (by decide) (by decide)).trans ?_
    exact Header.text?_insertText_self _ _ _

end Creation

namespace Header

/-- Whether the members of a header are plain, and so the header itself is read back. -/
def Plain (header : Header) : Prop :=
  ∀ entry ∈ header.members.entries, Json.Plain 125 entry.2

variable {header : Header}

theorem plain_empty : Header.empty.Plain :=
  fun _ hentry => absurd hentry List.not_mem_nil

theorem Plain.insertText (hheader : header.Plain) (name value : String) :
    (header.insertText name value).Plain :=
  Table.forall_insert hheader name (plain_string value)

theorem Plain.insertText? (hheader : header.Plain) (name : String) (value : Option String) :
    (header.insertText? name value).Plain := by
  cases value with
  | none => exact hheader
  | some value => exact hheader.insertText name value

theorem Plain.hinted (hheader : header.Plain) (key : Key) :
    (Creation.hinted header key).Plain :=
  (hheader.insertText? "kid" key.keyId).insertText? "x5t" key.thumbprint

theorem Plain.ofText?_json (hheader : header.Plain) :
    Json.ofText? header.json.text = some header.json :=
  ((plain_object hheader).mono (show 125 + 1 ≤ 127 by decide)).ofText?_text

end Header

theorem Draft.Plain.signedHeader {draft : Draft} (hdraft : draft.Plain) (algorithm : String) :
    (Creation.signedHeader draft algorithm).Plain := by
  refine List.foldlRecOn (motive := Header.Plain) (Creation.extra draft.header) _ ?_ ?_
  · have hframe := (Header.plain_empty.insertText "alg" algorithm).insertText "typ" "JWT"
    cases hsigning : draft.signing with
    | none => exact hframe
    | some credential => exact hframe.hinted credential.key
  · intro header hheader member hmember
    exact Table.forall_insert hheader member.1
      ⟨hdraft.header member hmember, hdraft.distinct member hmember⟩

theorem Creation.plain_encryptedHeader (key : Key) (algorithm encryption : String) :
    (encryptedHeader key algorithm encryption).Plain :=
  ((((Header.plain_empty.insertText "alg" algorithm).insertText "enc" encryption).hinted
    key).insertText "typ" "JWT").insertText "cty" "JWT"

end SecurityToken
