import SecurityToken.Proofs.Claim.Grouping
import SecurityToken.Proofs.Handler.Period
import SecurityToken.Proofs.Handler.Statement

/-!
# Fields above claims

A name can reach a created claim set in two ways, from the claims of the draft and from its fields
or the defaults. The fields are put in last. So a name has the value of its field or default, if
there is one, and otherwise the value that the claims come to; and as a known name keeps its
position, the names of the claims stay in front. Start and end are compared before their fractions
of a second are dropped, but flooring does not turn their order round.
-/

namespace SecurityToken

namespace ClaimSet

theorem get?_insertAll {members : List (String × Json)} (hnodup : (members.map Prod.fst).Nodup)
    (claims : ClaimSet) (name : String) :
    (claims.insertAll members).get? name = (members.lookup name).or (claims.get? name) := by
  cases hlookup : members.lookup name with
  | none =>
      have hname : name ∉ members.map Prod.fst := by
        intro hmem
        obtain ⟨member, hmember, rfl⟩ := List.mem_map.1 hmem
        exact absurd (List.lookup_eq_none_iff.1 hlookup member hmember) (by simp)
      rw [get?_insertAll_of_notMem hname, Option.none_or]
  | some value =>
      obtain ⟨before, after, rfl, _⟩ := List.lookup_eq_some_iff.1 hlookup
      rw [get?_insertAll_of_mem hnodup (List.mem_append_right before List.mem_cons_self),
        Option.some_or]

theorem names_prefix_insertAll (members : List (String × Json)) (claims : ClaimSet) :
    claims.names <+: (claims.insertAll members).names := by
  induction members generalizing claims with
  | nil => exact List.prefix_refl _
  | cons member rest ih =>
      refine List.IsPrefix.trans ?_ (ih (claims.insert member.1 member.2))
      unfold names insert
      rw [Table.keys_insert]
      split
      · exact List.prefix_refl _
      · exact List.prefix_append _ _

end ClaimSet

theorem Instant.seconds_floored (instant : Instant) :
    instant.seconds * 1000000000 ≤ instant.nanoseconds ∧
      instant.nanoseconds < (instant.seconds + 1) * 1000000000 := by
  unfold seconds
  omega

theorem ClaimSet.seconds_of_timeValue {instant : Instant} {count : WireInteger}
    (hvalue : some (timeValue instant) = some (.integer count)) : instant.seconds = count.1 :=
  congrArg Subtype.val (Json.integer.inj (Option.some.inj hvalue))

namespace Period

variable {period : Period}

/-- Whether there are a start and an end, and the end is not after the start. -/
def IsReversed (period : Period) : Prop :=
  ∃ start stop, period.notBefore = some start ∧ period.expires = some stop ∧ stop ≤ start

theorem check_of_isReversed (hreversed : period.IsReversed) :
    ∃ fault, period.check = .error fault ∧ fault.kind = .configurationError := by
  obtain ⟨start, stop, hstart, hstop, hle⟩ := hreversed
  unfold check
  rw [hstart, hstop]
  simp only [if_pos hle]
  exact ⟨_, rfl, rfl⟩

theorem check_of_not_isReversed (hreversed : ¬period.IsReversed) : period.check = .ok () := by
  unfold check
  split
  next start stop hstart hstop =>
    exact if_neg fun hle => hreversed ⟨start, stop, hstart, hstop, hle⟩
  next => rfl

/-- The instants of a period under the names that they are written by. -/
def instants (period : Period) : List (String × Option Instant) :=
  [("nbf", period.notBefore), ("exp", period.expires), ("iat", period.issuedAt)]

end Period

namespace Draft

variable {draft : Draft} {settings : Settings} {now : Instant}

/-- What the fields of a draft, and the defaults, give a name for its value. -/
def field? (draft : Draft) (settings : Settings) (now : Instant) : String → Option Json
  | "iss" => draft.issuer.map .string
  | "aud" =>
      match draft.audiences with
      | [] => none
      | [audience] => some (.string audience)
      | audiences => some (.array (audiences.map .string))
  | "actort" => draft.actorToken.map .string
  | "nbf" => (draft.times settings now).notBefore.map ClaimSet.timeValue
  | "exp" => (draft.times settings now).expires.map ClaimSet.timeValue
  | "iat" => (draft.times settings now).issuedAt.map ClaimSet.timeValue
  | _ => none

theorem lookup_member {α : Type} (name other : String) (write : α → Json) (value : Option α) :
    ((value.map fun value => (name, write value)).toList).lookup other =
      if other = name then value.map write else none := by
  cases value with
  | none =>
      rw [Option.map_none, Option.map_none, ite_self]
      rfl
  | some value =>
      by_cases hname : other = name
      · simp [hname]
      · simp [hname, List.lookup_cons, beq_eq_false_iff_ne.2 hname]

theorem lookup_members (draft : Draft) (settings : Settings) (now : Instant) (name : String) :
    (draft.members ++ (draft.times settings now).members).lookup name =
      draft.field? settings now name := by
  have haudience :
      ((audienceValue? draft.audiences).map fun value => ("aud", value)).toList.lookup name =
        if name = "aud" then audienceValue? draft.audiences else none :=
    (lookup_member "aud" name id _).trans (by rw [Option.map_id_fun, id])
  unfold field?
  split
  all_goals
    unfold members Period.members
    simp only [List.lookup_append, lookup_member, haudience]
  case h_2 =>
    change _ = audienceValue? draft.audiences
    simp
  case h_7 hiss haud hactort hnbf hexp hiat =>
    simp only [if_neg hiss, if_neg haud, if_neg hactort, if_neg hnbf, if_neg hexp, if_neg hiat,
      Option.none_or]
  all_goals simp

theorem field?_of_mem_instants {name : String} {instant : Instant}
    (hmem : (name, some instant) ∈ (draft.times settings now).instants) :
    draft.field? settings now name = some (ClaimSet.timeValue instant) := by
  unfold Period.instants at hmem
  simp only [List.mem_cons, List.not_mem_nil, or_false, Prod.mk.injEq] at hmem
  rcases hmem with ⟨rfl, htime⟩ | ⟨rfl, htime⟩ | ⟨rfl, htime⟩
  all_goals
    simp only [field?]
    rw [← htime, Option.map_some]

/-! ### What is stated -/

/-- What a created claim set states, beside the claims that come from the list of the draft. -/
structure Stated (draft : Draft) (settings : Settings) (now : Instant) (listed claims : ClaimSet) :
    Prop where
  value : ∀ name, claims.get? name = (draft.field? settings now name).or (listed.get? name)
  /-- A time counts the whole seconds, rounded down. -/
  floored : ∀ name instant, (name, some instant) ∈ (draft.times settings now).instants →
    ∃ count, claims.get? name = some (.integer count) ∧
      count.1 * 1000000000 ≤ instant.nanoseconds ∧
      instant.nanoseconds < (count.1 + 1) * 1000000000
  ordered : ∀ first last, (draft.times settings now).notBefore.isSome = true →
    (draft.times settings now).expires.isSome = true →
    claims.get? "nbf" = some (.integer first) → claims.get? "exp" = some (.integer last) →
    first.1 ≤ last.1
  /-- The names from the list come first, in the order that they have there. -/
  names : listed.names <+: claims.names

theorem stated_insertAll (hreversed : ¬(draft.times settings now).IsReversed)
    (listed : ClaimSet) :
    draft.Stated settings now listed
      (listed.insertAll (draft.members ++ (draft.times settings now).members)) := by
  have hvalue (name : String) :
      (listed.insertAll (draft.members ++ (draft.times settings now).members)).get? name =
        (draft.field? settings now name).or (listed.get? name) := by
    rw [ClaimSet.get?_insertAll (draft.nodup_names _), lookup_members]
  have htime (name : String) (instant : Instant)
      (hmem : (name, some instant) ∈ (draft.times settings now).instants) :
      (listed.insertAll (draft.members ++ (draft.times settings now).members)).get? name =
        some (ClaimSet.timeValue instant) := by
    rw [hvalue, field?_of_mem_instants hmem, Option.some_or]
  refine ⟨hvalue, ?_, ?_, ClaimSet.names_prefix_insertAll _ listed⟩
  · intro name instant hmem
    exact ⟨_, htime name instant hmem, instant.seconds_floored⟩
  · intro first last hstart hstop hfirst hlast
    obtain ⟨start, hstart⟩ := Option.isSome_iff_exists.1 hstart
    obtain ⟨stop, hstop⟩ := Option.isSome_iff_exists.1 hstop
    rw [htime "nbf" start (by simp [Period.instants, hstart])] at hfirst
    rw [htime "exp" stop (by simp [Period.instants, hstop])] at hlast
    -- The check compares the instants themselves, so that their seconds may still be equal.
    have hle : start ≤ stop :=
      Int.le_of_not_gt fun hlt => hreversed ⟨start, stop, hstart, hstop, Int.le_of_lt hlt⟩
    calc
      first.1 = start.seconds := (ClaimSet.seconds_of_timeValue hfirst).symm
      _ ≤ stop.seconds := Instant.seconds_le_seconds hle
      _ = last.1 := ClaimSet.seconds_of_timeValue hlast

/-- The making of a claim set is refused for a start and an end that are the wrong way round, and for
nothing else. Then what fields and defaults give stands above what the list says. -/
theorem claimSet_precedence (mapping : ClaimMapping) (hrange : draft.EndsInRange settings now) :
    ((draft.times settings now).IsReversed →
      ∃ fault, draft.claimSet mapping settings now = .error (.refused fault) ∧
        fault.kind = .configurationError) ∧
    (¬(draft.times settings now).IsReversed →
      ∃ claims, draft.claimSet mapping settings now = .ok claims ∧
        draft.Stated settings now (mapping.assemble draft.claims) claims) := by
  constructor
  · intro hreversed
    obtain ⟨fault, hcheck, hkind⟩ := Period.check_of_isReversed hreversed
    refine ⟨fault, ?_, hkind⟩
    unfold claimSet
    rw [period_of_endsInRange hrange, hcheck]
    rfl
  · intro hreversed
    refine ⟨_, claimSet_eq_ok.2 ⟨draft.times settings now, ?_, rfl⟩, stated_insertAll hreversed _⟩
    rw [period_of_endsInRange hrange, Period.check_of_not_isReversed hreversed]
    rfl

/-- It starts a nanosecond before the first of January 1970, and its list has an issuer, too. -/
def namedDraft : Draft where
  issuer := some "field"
  notBefore := some ⟨-1, by decide, by decide⟩
  claims := [.new "iss" "list" .string, .new "sub" "subject" .string]

theorem claimSet_precedence_namedDraft :
    ∃ claims, namedDraft.claimSet .empty .standard default = .ok claims ∧
      claims.get? "iss" = some (.string "field") ∧
      claims.get? "sub" = some (.string "subject") ∧
      claims.get? "nbf" = some (.integer ⟨-1, by decide⟩) ∧
      ["iss", "sub"] <+: claims.names := by
  have hrange : namedDraft.EndsInRange .standard default := fun _ _ => by decide
  have hreversed : ¬(namedDraft.times .standard default).IsReversed := by
    rintro ⟨start, stop, ⟨⟩, ⟨⟩, hle⟩
    exact absurd hle (by decide)
  obtain ⟨claims, hclaims, hstated⟩ :=
    (claimSet_precedence .empty hrange).2 hreversed
  refine ⟨claims, hclaims, ?_, ?_, ?_, hstated.names⟩
  · exact hstated.value "iss"
  · exact hstated.value "sub"
  · exact hstated.value "nbf"

end Draft

end SecurityToken
