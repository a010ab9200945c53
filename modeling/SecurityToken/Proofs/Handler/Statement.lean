import SecurityToken.Handler.Draft
import SecurityToken.Proofs.Basic
import SecurityToken.Proofs.Validation.Acceptance

/-!
# What a created claim set states

The fields of a draft have names of their own and are put in last, so that each of them stands in
the claim set whatever the claims of the draft are. Issuer and audiences are read back as they were
given. An instant is read back without its fraction of a second, which leaves the order of two
instants as it is, or makes them equal.
-/

namespace SecurityToken

namespace ClaimSet

theorem get?_insert (claims : ClaimSet) (name other : String) (value : Json) :
    (claims.insert name value).get? other =
      if other = name then some value else claims.get? other :=
  Table.get?_insert claims.members name other value

def insertAll (claims : ClaimSet) (members : List (String × Json)) : ClaimSet :=
  members.foldl (fun claims member => claims.insert member.1 member.2) claims

theorem get?_insertAll_of_notMem {members : List (String × Json)} {name : String}
    (hname : name ∉ members.map Prod.fst) (claims : ClaimSet) :
    (claims.insertAll members).get? name = claims.get? name := by
  refine List.foldlRecOn (motive := fun found : ClaimSet => found.get? name = claims.get? name)
    members _ rfl ?_
  intro found hfound member hmember
  have hother : name ≠ member.1 := fun heq => hname (heq ▸ List.mem_map_of_mem hmember)
  rw [get?_insert, if_neg hother, hfound]

/-- Under names that are all different every member is found. -/
theorem get?_insertAll_of_mem {members : List (String × Json)}
    (hnodup : (members.map Prod.fst).Nodup) {member : String × Json} (hmember : member ∈ members)
    (claims : ClaimSet) : (claims.insertAll members).get? member.1 = some member.2 := by
  induction members generalizing claims with
  | nil => exact absurd hmember List.not_mem_nil
  | cons first rest ih =>
      rw [List.map_cons, List.nodup_cons] at hnodup
      change ((claims.insert first.1 first.2).insertAll rest).get? member.1 = some member.2
      rcases List.mem_cons.1 hmember with rfl | hmember
      · rw [get?_insertAll_of_notMem hnodup.1, get?_insert, if_pos rfl]
      · exact ih hnodup.2 hmember _

end ClaimSet

/-! ### Instants -/

namespace Instant

/-- An instant without its fraction of a second. -/
def floor (instant : Instant) : Instant :=
  ⟨instant.seconds * 1000000000, by
    have := instant.lower
    unfold seconds
    omega, by
    have := instant.upper
    unfold seconds
    omega⟩

theorem seconds_le_seconds {first second : Instant} (hle : first ≤ second) :
    first.seconds ≤ second.seconds :=
  Int.ediv_le_ediv (by decide) hle

theorem floor_le_floor {first second : Instant} (hle : first ≤ second) :
    first.floor ≤ second.floor :=
  Int.mul_le_mul_of_nonneg_right (seconds_le_seconds hle) (by decide)

theorem ofSeconds?_seconds (instant : Instant) :
    ofSeconds? instant.seconds = some instant.floor :=
  dif_pos ⟨instant.floor.lower, instant.floor.upper⟩

end Instant

theorem ClaimSet.signed?_timeValue (instant : Instant) :
    (timeValue instant).signed? = some instant.seconds := by
  have := instant.upper
  refine if_pos ?_
  change instant.seconds < _
  unfold Instant.seconds
  omega

theorem ClaimSet.time_of_get? {claims : ClaimSet} {name : String} {instant : Instant}
    (hget : claims.get? name = some (timeValue instant)) :
    claims.time name = .ok (some instant.floor) := by
  unfold time
  rw [hget]
  simp only [signed?_timeValue, Instant.ofSeconds?_seconds]

namespace Draft

variable {draft : Draft} {mapping : ClaimMapping} {settings : Settings} {now : Instant}
  {claims : ClaimSet} {period : Period}

theorem sublist_map_fst {α : Type} (name : String) (write : α → Json) (value : Option α) :
    ((value.map fun value => (name, write value)).toList.map Prod.fst).Sublist [name] := by
  cases value with
  | none => exact List.nil_sublist _
  | some value => exact List.Sublist.refl _

/-- The fields of a draft go by names that are all different. -/
theorem nodup_names (draft : Draft) (period : Period) :
    ((draft.members ++ period.members).map Prod.fst).Nodup := by
  have hsublist : ((draft.members ++ period.members).map Prod.fst).Sublist
      (["iss"] ++ ["aud"] ++ ["actort"] ++ (["nbf"] ++ ["exp"] ++ ["iat"])) := by
    unfold members Period.members
    simp only [List.map_append]
    exact (((sublist_map_fst _ _ _).append (sublist_map_fst _ _ _)).append
      (sublist_map_fst _ _ _)).append
        (((sublist_map_fst _ _ _).append (sublist_map_fst _ _ _)).append (sublist_map_fst _ _ _))
  exact hsublist.nodup (by decide)

theorem claimSet_eq_ok :
    draft.claimSet mapping settings now = .ok claims ↔
      ∃ period, draft.period settings now = .ok period ∧
        (mapping.assemble draft.claims).insertAll (draft.members ++ period.members) = claims := by
  refine except_bind_eq_ok.trans (exists_congr fun period => and_congr Iff.rfl ?_)
  exact ⟨Except.ok.inj, fun h => congrArg Except.ok h⟩

/-- What a field holds stands in the claim set. -/
theorem get?_of_mem_members (hclaims : draft.claimSet mapping settings now = .ok claims)
    {member : String × Json} (hmember : member ∈ draft.members) :
    claims.get? member.1 = some member.2 := by
  obtain ⟨period, _, rfl⟩ := claimSet_eq_ok.1 hclaims
  exact ClaimSet.get?_insertAll_of_mem (draft.nodup_names period)
    (List.mem_append_left _ hmember) _

theorem issuer?_claimSet (hclaims : draft.claimSet mapping settings now = .ok claims)
    {issuer : String} (hissuer : draft.issuer = some issuer) : claims.issuer? = some issuer := by
  have hmember : ("iss", Json.string issuer) ∈ draft.members := by
    unfold members
    rw [hissuer]
    exact List.mem_append_left _ (List.mem_append_left _ (List.mem_singleton.2 rfl))
  unfold ClaimSet.issuer? ClaimSet.text?
  rw [get?_of_mem_members hclaims hmember]
  rfl

theorem audiences_claimSet (hclaims : draft.claimSet mapping settings now = .ok claims)
    (hsome : draft.audiences ≠ []) : claims.audiences = draft.audiences := by
  obtain ⟨value, hvalue⟩ : ∃ value, audienceValue? draft.audiences = some value := by
    unfold audienceValue?
    split
    next hnone => exact absurd hnone hsome
    · exact ⟨_, rfl⟩
    · exact ⟨_, rfl⟩
  have hmember : ("aud", value) ∈ draft.members := by
    unfold members
    rw [hvalue]
    exact List.mem_append_left _ (List.mem_append_right _ (List.mem_singleton.2 rfl))
  unfold ClaimSet.audiences
  rw [get?_of_mem_members hclaims hmember]
  unfold audienceValue? at hvalue
  split at hvalue
  · cases hvalue
  next audience haudiences =>
    obtain rfl := Option.some.inj hvalue
    exact haudiences.symm
  next audiences _ _ =>
    obtain rfl := Option.some.inj hvalue
    simp [List.filterMap_map, Function.comp_def, Json.string?]

/-- Whether the lifetime of a created token comes from the fields of its draft or from the defaults,
and not from its claims. -/
structure Schedules (draft : Draft) (settings : Settings) (claims : ClaimSet) : Prop where
  expires : draft.expires.isSome = true ∨ settings.defaultTimes = true
  notBefore : draft.notBefore.isSome = true ∨ settings.defaultTimes = true ∨
    claims.get? "nbf" = none

theorem period_eq_ok (hperiod : draft.period settings now = .ok period) :
    period.check = .ok () ∧ draft.expiry settings (period.notBefore.getD now) = .ok period.expires ∧
      period.notBefore = draft.notBefore.or (if settings.defaultTimes then some now else none) := by
  unfold Draft.period at hperiod
  obtain ⟨expires, hexpires, hperiod⟩ := except_bind_eq_ok.1 hperiod
  obtain ⟨_, hcheck, hperiod⟩ := except_bind_eq_ok.1 hperiod
  obtain rfl := Except.ok.inj hperiod
  exact ⟨except_mapError_eq_ok.1 hcheck, hexpires, rfl⟩

theorem exists_of_expiry {start : Instant} {expires : Option Instant}
    (hexpiry : draft.expiry settings start = .ok expires)
    (hset : draft.expires.isSome = true ∨ settings.defaultTimes = true) :
    ∃ stop, expires = some stop := by
  unfold expiry at hexpiry
  cases hfield : draft.expires with
  | some stop =>
      rw [hfield] at hexpiry
      exact ⟨stop, (Except.ok.inj hexpiry).symm⟩
  | none =>
      rw [hfield] at hexpiry hset
      simp only [if_pos (hset.resolve_left Bool.false_ne_true)] at hexpiry
      split at hexpiry
      next stop _ => exact ⟨stop, (Except.ok.inj hexpiry).symm⟩
      next => cases hexpiry

theorem floor_le_of_check {start stop : Instant} {issuedAt : Option Instant}
    (hcheck : Period.check ⟨some start, some stop, issuedAt⟩ = .ok ()) :
    start.floor ≤ stop.floor := by
  unfold Period.check at hcheck
  simp only at hcheck
  split at hcheck
  · cases hcheck
  next hlate => exact Instant.floor_le_floor (Int.le_of_lt (Int.not_le.1 hlate))

/-- A lifetime that does not come from the claims of a draft has an end, and no start after it. -/
theorem Schedules.lasts (hschedules : draft.Schedules settings claims)
    (hclaims : draft.claimSet mapping settings now = .ok claims) :
    ∃ notBefore expires, claims.Lasts notBefore expires := by
  obtain ⟨⟨notBefore, expires, issuedAt⟩, hperiod, hinserted⟩ := claimSet_eq_ok.1 hclaims
  obtain ⟨hcheck, hexpiry, hstart⟩ := period_eq_ok hperiod
  obtain ⟨stop, hstop⟩ := exists_of_expiry hexpiry hschedules.expires
  simp only at hstart hstop
  subst hstop
  have htime : ∀ member ∈ Period.members ⟨notBefore, some stop, issuedAt⟩,
      claims.get? member.1 = some member.2 := by
    intro member hmember
    rw [← hinserted]
    exact ClaimSet.get?_insertAll_of_mem (draft.nodup_names _) (List.mem_append_right _ hmember) _
  have hends : claims.expires = .ok (some stop.floor) :=
    ClaimSet.time_of_get? (htime ("exp", ClaimSet.timeValue stop) (by simp [Period.members]))
  cases notBefore with
  | none =>
      obtain ⟨hunset, hundefaulted⟩ := Option.or_eq_none_iff.1 hstart.symm
      have hnone : claims.get? "nbf" = none := by
        rcases hschedules.notBefore with hfield | hdefault | hnone
        · rw [hunset] at hfield
          cases hfield
        · rw [if_pos hdefault] at hundefaulted
          cases hundefaulted
        · exact hnone
      refine ⟨none, stop.floor, ?_, hends,
        fun start hmem => absurd hmem (Option.not_mem_none start)⟩
      unfold ClaimSet.notBefore ClaimSet.time
      rw [hnone]
  | some start =>
      refine ⟨some start.floor, stop.floor, ?_, hends, ?_⟩
      · exact ClaimSet.time_of_get?
          (htime ("nbf", ClaimSet.timeValue start) (by simp [Period.members]))
      · rintro _ ⟨⟩
        exact floor_le_of_check hcheck

end Draft

end SecurityToken
