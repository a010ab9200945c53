import SecurityToken.Claim.Mapping
import SecurityToken.Validation.Identity
import Mathlib.Data.List.Induction

/-!
# Claims of one name

A claim set is made from claims one after another, and a claim that finds a value under its name is
put beside it in an array. Whether that value is a single one or the array of several is told from
its shape alone. So the names come out each once, in the order in which they were first seen, and a
name has the value of its claim or the array of the values of its claims. The exception is a name
whose first claim has an array for its value: that array is taken for the array of several, and the
values that follow are added to its items.
-/

namespace SecurityToken

/-! ### Several values in one place -/

namespace Json

/-- What several values come to in one place: one is left as it is, and more than one are an array.
-/
def gathered? : List Json → Option Json
  | [] => none
  | [value] => some value
  | values => some (.array values)

/-- The same, but that an array in front of other values takes them up. -/
def merged? : List Json → Option Json
  | .array items :: next :: rest => some (.array (items ++ next :: rest))
  | values => gathered? values

/-- A value beside what there is already, as a claim set adds it. -/
def beside : Option Json → Json → Json
  | none, value => value
  | some (.array items), value => .array (items ++ [value])
  | some first, value => .array [first, value]

theorem merged?_concat (values : List Json) (value : Json) :
    merged? (values ++ [value]) = some (beside (merged? values) value) := by
  rcases values with _ | ⟨first, _ | ⟨second, rest⟩⟩
  · cases value <;> rfl
  · cases first <;> rfl
  · cases first with
    | array items => simp [merged?, beside]
    | _ => rfl

/-- No array is one of its own items. -/
theorem array_ne_item (items : List Json) : items ≠ [.array items] := by
  intro heq
  have hsize := congrArg sizeOf heq
  simp at hsize
  omega

theorem merged?_eq_gathered?_iff {values : List Json} :
    merged? values = gathered? values ↔
      ∀ items rest, values = .array items :: rest → rest = [] := by
  constructor
  · rintro hsame items rest rfl
    cases rest with
    | nil => rfl
    | cons next rest =>
        have hitems : items ++ next :: rest = .array items :: next :: rest :=
          Json.array.inj (Option.some.inj hsame)
        exact absurd (List.append_cancel_right hitems) (array_ne_item items)
  · intro hsingle
    rcases values with _ | ⟨first, _ | ⟨second, rest⟩⟩
    · rfl
    · cases first <;> rfl
    · cases first with
      | array items => exact nomatch hsingle items _ rfl
      | _ => rfl

end Json

/-! ### A table that grows by one name at a time -/

namespace Table

variable {α : Type} {table : Table α} {key : String} {value : α}

theorem keys_insert : (table.insert key value).keys =
    if key ∈ table.keys then table.keys else table.keys ++ [key] := by
  unfold insert
  by_cases hkey : key ∈ table.keys
  · rw [dif_pos hkey, if_pos hkey]
    exact map_fst_replace key value table.entries
  · rw [dif_neg hkey, if_neg hkey]
    exact List.map_append

end Table

theorem eraseDups_concat (names : List String) (name : String) :
    (names ++ [name]).eraseDups =
      if name ∈ names.eraseDups then names.eraseDups else names.eraseDups ++ [name] := by
  rw [List.eraseDups_append]
  by_cases hname : name ∈ names
  · simp [List.removeAll, hname]
  · simp [List.removeAll, hname, List.eraseDups_cons]

namespace ClaimSet

/-- The values that come under a name, in their order. -/
def valuesOf (entries : List (String × Json)) (name : String) : List Json :=
  (entries.filter fun entry => entry.1 == name).map Prod.snd

theorem valuesOf_concat (entries : List (String × Json)) (entry : String × Json) (name : String) :
    valuesOf (entries ++ [entry]) name =
      if entry.1 = name then valuesOf entries name ++ [entry.2] else valuesOf entries name := by
  unfold valuesOf
  by_cases hname : entry.1 = name
  · simp [hname]
  · simp [hname]

theorem add_eq_insert (claims : ClaimSet) (name : String) (value : Json) :
    claims.add name value = claims.insert name (Json.beside (claims.get? name) value) := by
  unfold add
  cases claims.get? name with
  | none => rfl
  | some first => cases first <;> rfl

theorem ofEntries_concat (entries : List (String × Json)) (entry : String × Json) :
    ofEntries (entries ++ [entry]) = (ofEntries entries).add entry.1 entry.2 := by
  unfold ofEntries
  rw [List.foldl_append]
  rfl

/-- By induction on the entries, from the last one back. -/
theorem names_ofEntries (entries : List (String × Json)) :
    (ofEntries entries).names = (entries.map Prod.fst).eraseDups := by
  induction entries using List.reverseRecOn with
  | nil => rfl
  | append_singleton entries entry ih =>
      rw [ofEntries_concat, add_eq_insert, List.map_append, List.map_singleton, eraseDups_concat,
        ← ih]
      exact Table.keys_insert

/-- By induction on the entries, from the last one back: what is found under a name is what the
values so far come to, and it tells the next value where to go. -/
theorem get?_ofEntries (entries : List (String × Json)) (name : String) :
    (ofEntries entries).get? name = Json.merged? (valuesOf entries name) := by
  induction entries using List.reverseRecOn with
  | nil => rfl
  | append_singleton entries entry ih =>
      rw [ofEntries_concat, add_eq_insert, valuesOf_concat]
      unfold insert get?
      rw [Table.get?_insert]
      by_cases hname : entry.1 = name
      · subst hname
        rw [if_pos rfl, if_pos rfl, Json.merged?_concat, ← ih]
        rfl
      · rw [if_neg (Ne.symm hname), if_neg hname]
        exact ih

/-- A claim set of claims under names that they are given: the names each once and in the order in
which they were first seen, and under each the value of its claim or the array of the values of its
claims, one for each, unless the first of several is an array itself. -/
structure Groups (set : ClaimSet) (nameOf : Claim → String) (claims : List Claim) : Prop where
  names : set.names = (claims.map nameOf).eraseDups
  values : ∀ name, set.get? name =
    Json.merged? ((claims.filter fun claim => nameOf claim == name).map Claim.json)
  apart : ∀ name, set.get? name =
      Json.gathered? ((claims.filter fun claim => nameOf claim == name).map Claim.json) ↔
    ∀ items rest, (claims.filter fun claim => nameOf claim == name).map Claim.json =
      .array items :: rest → rest = []

theorem groups_ofEntries (nameOf : Claim → String) (claims : List Claim) :
    (ofEntries (claims.map fun claim => (nameOf claim, claim.json))).Groups nameOf claims := by
  have hvalues : ∀ name, valuesOf (claims.map fun claim => (nameOf claim, claim.json)) name =
      (claims.filter fun claim => nameOf claim == name).map Claim.json := by
    intro name
    unfold valuesOf
    rw [List.filter_map, List.map_map]
    rfl
  refine ⟨?_, fun name => ?_, fun name => ?_⟩
  · rw [names_ofEntries, List.map_map]
    rfl
  · rw [get?_ofEntries, hvalues]
  · rw [get?_ofEntries, hvalues]
    exact Json.merged?_eq_gathered?_iff

end ClaimSet

/-- Claims are grouped by their wire names when they are assembled, and by their types in the claim
set of an identity. A name has the value of its claim, or the array with the value of each of its
claims, just if no array comes first among several. -/
theorem Claim.grouped_by_name (mapping : ClaimMapping) (claims : List Claim) (identity : Identity) :
    (mapping.assemble claims).Groups mapping.outboundName claims ∧
      identity.claimSet.Groups Claim.type identity.claims :=
  ⟨ClaimSet.groups_ofEntries mapping.outboundName claims,
    ClaimSet.groups_ofEntries Claim.type identity.claims⟩

/-! ### An array in front of another claim -/

/-- Two claims of one name: an array of one item, and a number. -/
def nestedClaims : List Claim :=
  [.new "a" "[1]" .json, .new "a" "2" .integer]

def nestedValues : List Json :=
  (nestedClaims.filter fun claim => ClaimMapping.empty.outboundName claim == "a").map Claim.json

def Json.isArray : Json → Bool
  | .array _ => true
  | _ => false

theorem exists_nestedValues : ∃ items value, nestedValues = [.array items, value] := by
  have hshape : nestedValues.map Json.isArray = [true, false] := by decide +kernel
  obtain ⟨first, rest, hvalues, hfirst, hrest⟩ := List.map_eq_cons_iff.1 hshape
  obtain ⟨value, hvalue, -⟩ := List.map_eq_singleton_iff.1 hrest
  cases first with
  | array items => exact ⟨items, value, by rw [hvalues, hvalue]⟩
  | _ => cases hfirst

/-- The number becomes an item of the array that is the value of the other claim. -/
theorem Claim.not_forall_gathered :
    ¬∀ (mapping : ClaimMapping) (claims : List Claim) (name : String),
      (mapping.assemble claims).get? name = Json.gathered?
        ((claims.filter fun claim => mapping.outboundName claim == name).map Claim.json) := by
  intro hgathered
  have hgroups : (ClaimMapping.empty.assemble nestedClaims).Groups ClaimMapping.empty.outboundName
      nestedClaims := ClaimSet.groups_ofEntries _ _
  obtain ⟨items, value, hvalues⟩ := exists_nestedValues
  exact nomatch (hgroups.apart "a").1 (hgathered .empty nestedClaims "a") items [value] hvalues

end SecurityToken
