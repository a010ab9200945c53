import SecurityToken.Proofs.Claim.Reversal

/-!
# A claim gives back the value it was made from

Strings and null are kept apart from all other values by the kind of their claims, and need no text
to be read. Every other value is printed when its claim is made and read again when the claim is
asked for it, and where the reader fails the claim passes its text off as a string. So what matters
is which values the reader finds in their own texts: without doubles, these are the ones that name
each member once and are no deeper than the reader goes.
-/

namespace SecurityToken.Claim

open Json

/-- A value other than the fallback was read. -/
theorem ofText?_eq_of_getD {value : Json} {text : String}
    (hvalue : (Json.ofText? text).getD (.string text) = value) (hstring : value ≠ .string text) :
    Json.ofText? text = some value := by
  cases hread : Json.ofText? text with
  | none =>
      rw [hread] at hvalue
      exact absurd hvalue.symm hstring
  | some found =>
      rw [hread] at hvalue
      exact congrArg some hvalue

/-- Of the values without doubles just those are lost that are deeper than the reader goes, or that
name a member twice. -/
theorem json_ofItem_iff (type : String) {value : Json} (hfree : DoubleFree value) :
    (ofItem type value).json = value ↔ Plain 127 value := by
  constructor
  · intro hjson
    cases hfree with
    | null => exact ⟨.null, .null⟩
    | string value => exact plain_string value
    | integer value => exact plain_integer value
    | bool value => exact ⟨.bool value, .bool value⟩
    | array hitems =>
        have hread := ofText?_eq_of_getD hjson Json.noConfusion
        exact plain_of_ofText? hread (.array hitems)
    | object hmembers =>
        have hread := ofText?_eq_of_getD hjson Json.noConfusion
        exact plain_of_ofText? hread (.object hmembers)
  · intro hplain
    exact json_ofItem type hplain.ofText?_text

/-- A value without doubles, of at most 127 levels and with each member named once, comes back from
its claims as it was: from a single claim, or from one claim for each item if it is an array, in the
order of the items. Each claim has the kind of what it gives back, so that no string comes back for
a value that looks like it. -/
theorem ofJson_restores (type : String) {value : Json} (hplain : Plain 127 value) :
    (∀ items, value = .array items → (ofJson type value).map json = items) ∧
      ((∀ items, value ≠ .array items) →
        ∃ claim, ofJson type value = [claim] ∧ claim.json = value) ∧
      ∀ claim ∈ ofJson type value, claim.type = type ∧ claim.kind = .ofJson claim.json := by
  have hback : ∀ item ∈ value.items, (ofItem type item).json = item := by
    intro item hitem
    have hitem : Plain 127 item := hplain.of_mem_items hitem
    exact (json_ofItem_iff type hitem.shallow.doubleFree).2 hitem
  refine ⟨?_, ?_, ?_⟩
  · rintro items rfl
    calc (ofJson type (.array items)).map json
        = items.map fun item => (ofItem type item).json := List.map_map
      _ = items.map id := List.map_congr_left hback
      _ = items := List.map_id items
  · intro hsingle
    have hitems : value.items = [value] := by
      cases value with
      | array items => exact absurd rfl (hsingle items)
      | _ => rfl
    refine ⟨ofItem type value, ?_, hback value (by simp [hitems])⟩
    rw [ofJson_eq, hitems, List.map_singleton]
  · intro claim hclaim
    rw [ofJson_eq] at hclaim
    obtain ⟨item, hitem, rfl⟩ := List.mem_map.1 hclaim
    refine ⟨rfl, ?_⟩
    rw [hback item hitem]
    rfl

/-- Two members in the reverse of their order, with a quote, a backslash and control characters to
escape, and the two ends of the range of integers. -/
def layeredMembers : Table Json :=
  ⟨[("\"\\\n", .array [.integer ⟨-0x8000000000000000, by decide⟩,
      .integer ⟨0xFFFFFFFFFFFFFFFF, by decide⟩]),
    ("", .string "\u0001\u007f")], by decide⟩

theorem plain_layeredMembers : Plain 2 (.object layeredMembers.entries) := by
  refine plain_object (List.forall_mem_cons.2 ⟨plain_array ?_, List.forall_mem_singleton.2 ?_⟩)
  · exact List.forall_mem_cons.2 ⟨plain_integer _, List.forall_mem_singleton.2 (plain_integer _)⟩
  · exact plain_string _

/-- The object on its own, and as an item beside a string that looks like an integer. -/
theorem ofJson_restores_layeredMembers :
    (∃ claim, ofJson "layers" (.object layeredMembers.entries) = [claim] ∧
      claim.json = .object layeredMembers.entries) ∧
    (ofJson "layers" (.array [.object layeredMembers.entries, .string "7"])).map json =
      [.object layeredMembers.entries, .string "7"] ∧
    ∀ claim ∈ ofJson "layers" (.array [.object layeredMembers.entries, .string "7"]),
      claim.type = "layers" ∧ claim.kind = .ofJson claim.json := by
  have hobject : Plain 127 (.object layeredMembers.entries) :=
    plain_layeredMembers.mono (by decide)
  have hitems : Plain 3 (.array [.object layeredMembers.entries, .string "7"]) :=
    plain_array (List.forall_mem_cons.2
      ⟨plain_layeredMembers, List.forall_mem_singleton.2 (plain_string "7")⟩)
  have harray := ofJson_restores "layers" (hitems.mono (show 3 ≤ 127 by decide))
  refine ⟨?_, harray.1 _ rfl, harray.2.2⟩
  exact (ofJson_restores "layers" hobject).2.1 fun _ => Json.noConfusion

end SecurityToken.Claim
