import SecurityToken.Proofs.Claim.Grouping
import SecurityToken.Proofs.Json.RoundTrip

/-!
# Claim sets and their claims

A claim set is taken apart into claims, one for each item of an array, and claims of one name are
put together again. On the way in a name may give way to a long type, and on the way out it comes
back: by the mapping of types, or by the name that the claim has on record. Where no name comes back
for another and every value is read back from its text, the claim set is what it was, but for arrays
of one item, which come back as the item.
-/

namespace SecurityToken

/-! ### Tables with the same keys -/

namespace Table

variable {α β : Type}

def map (change : α → β) (table : Table α) : Table β :=
  ⟨table.entries.map fun entry => (entry.1, change entry.2), by
    rw [List.map_map]
    exact table.nodup⟩

theorem keys_map (change : α → β) (table : Table α) : (table.map change).keys = table.keys :=
  List.map_map

theorem get?_map (change : α → β) (table : Table α) (key : String) :
    (table.map change).get? key = (table.get? key).map change := by
  ext value
  rw [get?_eq_some, Option.map_eq_some_iff]
  constructor
  · intro hmem
    obtain ⟨entry, hentry, heq⟩ := List.mem_map.1 hmem
    obtain ⟨rfl, rfl⟩ := Prod.mk.inj heq
    exact ⟨entry.2, get?_eq_some.2 hentry, rfl⟩
  · rintro ⟨old, hold, rfl⟩
    exact List.mem_map.2 ⟨(key, old), get?_eq_some.1 hold, rfl⟩

theorem entries_eq_filterMap (table : Table α) :
    table.entries = table.keys.filterMap fun key => (table.get? key).map (key, ·) := by
  have hentries : ∀ entry ∈ table.entries,
      ((table.get? entry.1).map (entry.1, ·)) = some entry := by
    intro entry hentry
    rw [get?_eq_some.2 (show (entry.1, entry.2) ∈ table.entries from hentry)]
    rfl
  unfold keys
  rw [List.filterMap_map]
  exact (List.filterMap_some.symm.trans
    (List.filterMap_congr fun entry hentry => (hentries entry hentry).symm))

theorem ext_get? {left right : Table α} (hkeys : left.keys = right.keys)
    (hvalues : ∀ key, left.get? key = right.get? key) : left = right := by
  apply ext_entries
  rw [left.entries_eq_filterMap, right.entries_eq_filterMap, hkeys]
  simp only [hvalues]

end Table

/-! ### Values taken apart and put together -/

namespace Json

/-- The values that become claims: the items of an array, or else the value itself. -/
def items : Json → List Json
  | .array items => items
  | value => [value]

/-- An array of one item gives way to the item. -/
def unwrapped : Json → Json
  | .array [item] => item
  | value => value

theorem mem_items {value item : Json} (hitem : item ∈ value.items) :
    item = value ∨ ∃ items, value = .array items ∧ item ∈ items := by
  cases value with
  | array items => exact .inr ⟨items, rfl, hitem⟩
  | _ => exact .inl (List.mem_singleton.1 hitem)

theorem Plain.of_mem_items {depth : Nat} {value item : Json} (hplain : Plain depth value)
    (hitem : item ∈ value.items) : Plain depth item := by
  rcases mem_items hitem with rfl | ⟨items, rfl, hitem⟩
  · exact hplain
  · obtain _ | depth := depth
    · exact nomatch hplain.shallow
    · exact (hplain.of_array item hitem).mono (Nat.le_succ depth)

theorem merged?_items {value : Json} (hnonempty : value ≠ .array [])
    (hflat : ∀ items, value = .array items → ∀ item ∈ items, ∀ inner, item ≠ .array inner) :
    merged? value.items = some value.unwrapped := by
  cases value with
  | array items =>
      rcases items with _ | ⟨first, _ | ⟨second, rest⟩⟩
      · exact absurd rfl hnonempty
      · cases first <;> rfl
      · cases first with
        | array inner => exact absurd rfl (hflat _ rfl _ List.mem_cons_self inner)
        | _ => rfl
  | _ => rfl

end Json

theorem eraseDups_map_const {α : Type} (name : String) {values : List α} (hvalues : values ≠ []) :
    (values.map fun _ => name).eraseDups = [name] := by
  cases values with
  | nil => exact absurd rfl hvalues
  | cons value rest => simp [List.eraseDups_cons]

namespace ClaimSet

/-- The members of a claim set with each item of an array on its own. -/
def flattened (members : List (String × Json)) : List (String × Json) :=
  members.flatMap fun member => member.2.items.map (member.1, ·)

theorem names_flattened {members : List (String × Json)} (hnodup : (members.map Prod.fst).Nodup)
    (hnonempty : ∀ member ∈ members, member.2.items ≠ []) :
    ((flattened members).map Prod.fst).eraseDups = members.map Prod.fst := by
  induction members with
  | nil => rfl
  | cons member rest ih =>
      obtain ⟨hnew, hnodup⟩ := List.nodup_cons.1 hnodup
      have hfirst := eraseDups_map_const member.1 (hnonempty member List.mem_cons_self)
      have hrest := ih hnodup fun other hother => hnonempty other (List.mem_cons_of_mem _ hother)
      have hapart : ((flattened rest).map Prod.fst).removeAll
          (member.2.items.map fun _ => member.1) = (flattened rest).map Prod.fst := by
        refine List.filter_eq_self.2 fun name hname => ?_
        rw [← List.mem_eraseDups, hrest] at hname
        have hne : name ≠ member.1 := fun heq => hnew (heq ▸ hname)
        simp [hne]
      unfold flattened at hapart hrest ⊢
      rw [List.flatMap_cons, List.map_append, List.map_map, List.eraseDups_append]
      change (member.2.items.map fun _ => member.1).eraseDups ++
        (List.removeAll _ (member.2.items.map fun _ => member.1)).eraseDups = _
      rw [hfirst, hapart, hrest]
      rfl

theorem valuesOf_flattened {members : List (String × Json)} (hnodup : (members.map Prod.fst).Nodup)
    (name : String) :
    valuesOf (flattened members) name = (members.lookup name).elim [] Json.items := by
  induction members with
  | nil => rfl
  | cons member rest ih =>
      obtain ⟨hnew, hnodup⟩ := List.nodup_cons.1 hnodup
      have hrest := ih hnodup
      unfold flattened valuesOf at hrest ⊢
      rw [List.flatMap_cons, List.filter_append, List.map_append, hrest, List.filter_map,
        List.lookup_cons]
      by_cases hname : name = member.1
      · subst hname
        have hnone : rest.lookup member.1 = none := by
          rw [List.lookup_eq_none_iff]
          intro entry hentry
          rw [bne_iff_ne, ne_eq]
          exact fun heq => hnew (heq ▸ List.mem_map_of_mem hentry)
        simp [hnone, Function.comp_def]
      · have hbeq : (name == member.1) = false := by simpa using hname
        simp [hbeq, Ne.symm hname, Function.comp_def]

def unwrapped (claims : ClaimSet) : ClaimSet :=
  ⟨claims.members.map Json.unwrapped⟩

/-- Whether a claim set can be put together again: no double and no empty array is among its values,
and no array is an item of an array. -/
structure Reversible (claims : ClaimSet) : Prop where
  doubleFree : ∀ member ∈ claims.members.entries, Json.DoubleFree member.2
  nonempty : ∀ member ∈ claims.members.entries, member.2 ≠ .array []
  flat : ∀ member ∈ claims.members.entries, ∀ items, member.2 = .array items →
    ∀ item ∈ items, ∀ inner, item ≠ .array inner

variable {claims : ClaimSet}

theorem Reversible.items_ne_nil (hreversible : claims.Reversible) {member : String × Json}
    (hmember : member ∈ claims.members.entries) : member.2.items ≠ [] := by
  have hnonempty := hreversible.nonempty member hmember
  cases hvalue : member.2 with
  | array items =>
      rintro rfl
      exact hnonempty hvalue
  | _ => exact List.cons_ne_nil _ _

theorem ofEntries_flattened (hreversible : claims.Reversible) :
    ofEntries (flattened claims.members.entries) = claims.unwrapped := by
  refine congrArg ClaimSet.mk (Table.ext_get? ?_ fun name => ?_)
  · rw [Table.keys_map]
    exact (names_ofEntries _).trans
      (names_flattened claims.members.nodup fun _ => hreversible.items_ne_nil)
  · refine (get?_ofEntries _ name).trans ?_
    rw [valuesOf_flattened claims.members.nodup, Table.get?_map]
    change Json.merged? ((claims.members.get? name).elim [] Json.items) = _
    cases hfound : claims.members.get? name with
    | none => rfl
    | some value =>
        have hmember := Table.get?_eq_some.1 hfound
        exact Json.merged?_items (hreversible.nonempty _ hmember) (hreversible.flat _ hmember)

end ClaimSet

/-! ### Claims and their values -/

namespace Claim

theorem ofJson_eq (type : String) (value : Json) :
    ofJson type value = value.items.map (ofItem type) := by
  cases value <;> rfl

theorem json_ofItem (type : String) {value : Json} (hread : Json.ofText? value.text = some value) :
    (ofItem type value).json = value := by
  have hkept : (Json.ofText? value.text).getD (.string value.text) = value := by
    rw [hread]
    rfl
  cases value with
  | string _ => rfl
  | null => rfl
  | _ => exact hkept

end Claim

/-- The values of a claim set that was read, and the items of its arrays, are read back from their
texts. -/
theorem ClaimSet.Reversible.ofText?_text {claims : ClaimSet} {text : String}
    (hreversible : claims.Reversible) (hread : Json.ofText? text = some claims.json)
    {member : String × Json} (hmember : member ∈ claims.members.entries) {item : Json}
    (hitem : item ∈ member.2.items) : Json.ofText? item.text = some item := by
  have hclaims : Json.Plain 127 claims.json :=
    Json.plain_of_ofText? hread (.object hreversible.doubleFree)
  have hvalue : Json.Plain 126 member.2 := hclaims.of_object member hmember
  exact ((hvalue.of_mem_items hitem).mono (by decide)).ofText?_text

/-! ### Names and types -/

namespace ClaimMapping

/-- The mapping that is made from names and the long types that are given to them, one pair after
another. -/
def ofNames (names : List (String × String)) : ClaimMapping :=
  names.foldl (fun mapping entry => mapping.withName entry.1 entry.2) .empty

def withoutOutbound (mapping : ClaimMapping) : ClaimMapping :=
  { mapping with outbound := ∅ }

theorem foldl_withName (names : List (String × String)) (mapping : ClaimMapping) :
    names.foldl (fun mapping entry => mapping.withName entry.1 entry.2) mapping =
      { mapping with
        inbound := names.foldl (fun table entry => table.insert entry.1 entry.2) mapping.inbound
        outbound := (names.map Prod.swap).foldl (fun table entry => table.insert entry.1 entry.2)
          mapping.outbound } := by
  induction names generalizing mapping with
  | nil => rfl
  | cons entry rest ih => exact ih _

section Names

variable {names : List (String × String)} {short long : String}

theorem inbound_ofNames (hshorts : (names.map Prod.fst).Nodup) :
    (ofNames names).inbound.get? short = some long ↔ (short, long) ∈ names := by
  have hentries : (ofNames names).inbound.entries = names := by
    unfold ofNames
    rw [foldl_withName]
    exact Table.entries_foldl_insert Table.empty names hshorts
  rw [Table.get?_eq_some, hentries]

theorem outbound_ofNames (hlongs : (names.map Prod.snd).Nodup) :
    (ofNames names).outbound.get? long = some short ↔ (short, long) ∈ names := by
  have hnodup : ((names.map Prod.swap).map Prod.fst).Nodup := by
    rw [List.map_map]
    exact hlongs
  have hentries : (ofNames names).outbound.entries = names.map Prod.swap := by
    unfold ofNames
    rw [foldl_withName]
    exact Table.entries_foldl_insert Table.empty _ hnodup
  rw [Table.get?_eq_some, hentries]
  constructor
  · intro hmem
    obtain ⟨entry, hentry, heq⟩ := List.mem_map.1 hmem
    obtain ⟨rfl, rfl⟩ := Prod.mk.inj heq
    exact hentry
  · exact fun hmem => List.mem_map.2 ⟨_, hmem, rfl⟩

/-- A claim whose name gave way to a long type gets it back from either map, and one that kept its
name keeps it, unless the name is the long type of another. -/
theorem outboundName_lengthen (hshorts : (names.map Prod.fst).Nodup)
    (hlongs : (names.map Prod.snd).Nodup) {name : String}
    (hapart : name ∉ names.map Prod.fst → name ∉ names.map Prod.snd) {claim : Claim}
    (htype : claim.type = name) (hshort : claim.shortType? = none) :
    (ofNames names).outboundName ((ofNames names).lengthen name claim) = name ∧
      (ofNames names).withoutOutbound.outboundName ((ofNames names).lengthen name claim) =
        name := by
  unfold lengthen
  cases hlong : (ofNames names).inbound.get? name with
  | some long =>
      have houtbound := (outbound_ofNames hlongs).2 ((inbound_ofNames hshorts).1 hlong)
      have hrecorded : (({ claim with type := long }).withProperty Claim.shortTypeProperty
          name).shortType? = some name :=
        (Table.get?_insert ..).trans (if_pos rfl)
      constructor
      · unfold outboundName
        change ((ofNames names).outbound.get? long).getD _ = name
        rw [houtbound]
        rfl
      · unfold outboundName
        change (Option.getD _ long) = name
        rw [hrecorded]
        rfl
  | none =>
      have hnone : (ofNames names).outbound.get? name = none := by
        rw [Option.eq_none_iff_forall_ne_some]
        intro short hfound
        have hlongType : name ∈ names.map Prod.snd :=
          List.mem_map_of_mem ((outbound_ofNames hlongs).1 hfound)
        have hshortName : name ∈ names.map Prod.fst := by
          by_contra hunmapped
          exact hapart hunmapped hlongType
        obtain ⟨entry, hentry, rfl⟩ := List.mem_map.1 hshortName
        exact nomatch hlong.symm.trans ((inbound_ofNames hshorts).2 hentry)
      have hkept : claim.shortType?.getD claim.type = name := by
        rw [hshort]
        exact htype
      constructor
      · unfold outboundName
        simp only [htype, hnone]
        rwa [htype] at hkept
      · exact hkept

theorem json_lengthen (mapping : ClaimMapping) (name : String) (claim : Claim) :
    (mapping.lengthen name claim).json = claim.json := by
  unfold lengthen
  cases mapping.inbound.get? name with
  | none => rfl
  | some long => rfl

theorem ignores_ofNames (names : List (String × String)) (name : String) :
    (ofNames names).ignores name = false := by
  unfold ofNames
  rw [foldl_withName]
  rfl

/-- The claims of a claim set, each under the wire name that a mapping gives it and with its value.
-/
theorem entries_extract {claims : ClaimSet} {text : String}
    (hread : Json.ofText? text = some claims.json) (hreversible : claims.Reversible)
    {mapping : ClaimMapping} (hnames : ∀ name ∈ claims.names, ∀ claim : Claim,
      claim.type = name → claim.shortType? = none →
        mapping.outboundName ((ofNames names).lengthen name claim) = name) (issuer : String) :
    ((ofNames names).extract claims issuer true).map
        (fun claim => (mapping.outboundName claim, claim.json)) =
      ClaimSet.flattened claims.members.entries := by
  unfold extract ClaimSet.flattened
  rw [List.map_flatMap]
  refine List.flatMap_congr fun member hmember => ?_
  unfold extractMember
  rw [ignores_ofNames, if_neg (by decide), Claim.ofJson_eq, List.map_map, List.map_map]
  refine List.map_congr_left fun item hitem => ?_
  have hname := hnames member.1 (List.mem_map_of_mem hmember)
    ((Claim.ofItem member.1 item).withIssuer issuer) rfl rfl
  have hvalue := Claim.json_ofItem member.1 (hreversible.ofText?_text hread hmember hitem)
  exact Prod.ext hname ((json_lengthen ..).trans hvalue)

/-- A claim set that was read comes back from its claims as it was, in its order and with the values
that it had, but that an array of one item comes back as the item. The names that gave way to long
types come back by the mapping, and without it from the record that the claims keep of them. -/
theorem assemble_extract (hshorts : (names.map Prod.fst).Nodup)
    (hlongs : (names.map Prod.snd).Nodup) {claims : ClaimSet} {text : String}
    (hread : Json.ofText? text = some claims.json) (hreversible : claims.Reversible)
    (hapart : ∀ name ∈ claims.names, name ∉ names.map Prod.fst → name ∉ names.map Prod.snd)
    (issuer : String) :
    (ofNames names).assemble ((ofNames names).extract claims issuer true) = claims.unwrapped ∧
      (ofNames names).withoutOutbound.assemble ((ofNames names).extract claims issuer true) =
        claims.unwrapped := by
  have hback : ∀ name ∈ claims.names, ∀ claim : Claim, claim.type = name →
      claim.shortType? = none →
        (ofNames names).outboundName ((ofNames names).lengthen name claim) = name ∧
          (ofNames names).withoutOutbound.outboundName ((ofNames names).lengthen name claim) =
            name :=
    fun name hname _ => outboundName_lengthen hshorts hlongs (hapart name hname)
  unfold assemble
  rw [entries_extract hread hreversible
      (fun name hname claim htype hshort => (hback name hname claim htype hshort).1),
    entries_extract hread hreversible
      (fun name hname claim htype hshort => (hback name hname claim htype hshort).2)]
  exact ⟨ClaimSet.ofEntries_flattened hreversible, ClaimSet.ofEntries_flattened hreversible⟩

end Names

def mappedNames : List (String × String) := [("email", "mapped_email")]

def mappedClaims : ClaimSet :=
  ⟨⟨[("email", .array [.string "a@b.example"]), ("role", .array [.string "a", .null])],
    by decide⟩⟩

theorem reversible_mappedClaims : mappedClaims.Reversible where
  doubleFree := List.forall_mem_cons.2 ⟨.array (List.forall_mem_singleton.2 (.string _)),
    List.forall_mem_singleton.2
      (.array (List.forall_mem_cons.2 ⟨.string _, List.forall_mem_singleton.2 .null⟩))⟩
  nonempty := by simp [mappedClaims]
  flat := by simp [mappedClaims]

theorem ofText?_text_mappedClaims :
    Json.ofText? mappedClaims.json.text = some mappedClaims.json := by
  apply Json.ofText?_text
  · exact .object (List.forall_mem_cons.2 ⟨.array (List.forall_mem_singleton.2 (.string _)),
      List.forall_mem_singleton.2
        (.array (List.forall_mem_cons.2 ⟨.string _, List.forall_mem_singleton.2 .null⟩))⟩)
  · exact .object (by decide) (List.forall_mem_cons.2
      ⟨.array (List.forall_mem_singleton.2 (.string _)), List.forall_mem_singleton.2
        (.array (List.forall_mem_cons.2 ⟨.string _, List.forall_mem_singleton.2 .null⟩))⟩)

/-- A mapped name with an array of one item, and a name that is not mapped with an array of two. -/
theorem assemble_extract_mappedClaims :
    (ofNames mappedNames).assemble ((ofNames mappedNames).extract mappedClaims "issuer" true) =
      mappedClaims.unwrapped ∧
    (ofNames mappedNames).withoutOutbound.assemble
      ((ofNames mappedNames).extract mappedClaims "issuer" true) = mappedClaims.unwrapped :=
  assemble_extract (by decide) (by decide) ofText?_text_mappedClaims reversible_mappedClaims
    (by decide) "issuer"

end ClaimMapping

end SecurityToken
