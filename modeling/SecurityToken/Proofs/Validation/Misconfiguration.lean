import SecurityToken.Proofs.Validation.Membership

/-!
# Checks with nothing to go by

A policy may have issuers or audiences checked and configure none, or white space only. No token can
be accepted then, and the fault lies with the policy. The check of audiences looks at the policy
first, and blames it whatever the token states. The check of issuers looks at the token first: it
blames the policy for a token that names an issuer, and blames the token for naming none.
-/

namespace SecurityToken

variable {ρ : Type}

/-- Whether white space is all that is configured, if anything is. -/
def Entries.Blank (entries : Entries) : Prop :=
  ∀ entry, entries.single = some entry ∨ entry ∈ entries.many → Text.isBlank entry = true

/-- Whether a check is on and is the handler's own, but has no entry to go by. -/
structure Misconfigured {α : Type} (isOn : Bool) (validator : Option α) (entries : Entries) :
    Prop where
  isOn : isOn = true
  own : validator = none
  blank : entries.Blank

/-- Whether a claim set names an issuer: a text that is not white space alone. -/
def ClaimSet.NamesIssuer (claims : ClaimSet) : Prop :=
  ∃ issuer, claims.get? "iss" = some (.string issuer) ∧ Text.isBlank issuer = false

namespace Policy

variable {policy : Policy ρ}

def LacksIssuers (policy : Policy ρ) : Prop :=
  Misconfigured policy.validateIssuer policy.issuerValidator policy.issuerEntries

def LacksAudiences (policy : Policy ρ) : Prop :=
  Misconfigured policy.validateAudience policy.audienceValidator policy.audienceEntries

theorem accepted_eq_nil_iff {single : Option String} {many : List String} :
    accepted single many = [] ↔ Entries.Blank ⟨single, many⟩ := by
  rw [List.eq_nil_iff_forall_not_mem]
  apply forall_congr'
  intro entry
  rw [mem_accepted, Entries.Trusts, not_and, Bool.not_eq_false]

theorem acceptIssuer_of_lacksIssuers (hlacks : policy.LacksIssuers) (issuer : String) :
    policy.acceptIssuer (some issuer) = .error
      (.configuration "issuer validation is enabled but no valid issuers are configured") := by
  have hnone : policy.acceptedIssuers = [] := accepted_eq_nil_iff.2 hlacks.blank
  simp only [acceptIssuer, hnone, List.isEmpty_nil, if_true]

theorem acceptAudience_of_lacksAudiences (hlacks : policy.LacksAudiences)
    (audiences : List String) :
    policy.acceptAudience audiences = .error
      (.configuration "audience validation is enabled but no valid audiences are configured") := by
  have hnone : policy.acceptedAudiences = [] := accepted_eq_nil_iff.2 hlacks.blank
  simp only [acceptAudience, hnone, List.isEmpty_nil, if_true]

end Policy

namespace Validation

variable {σ : Type} {policy : Policy ρ} {token : Token} {session : Session σ ρ}

theorem nonBlank?_issuer?_eq_none (hnameless : ¬token.claims.NamesIssuer) :
    nonBlank? token.claims.issuer? = none := by
  rw [Option.eq_none_iff_forall_ne_some]
  intro issuer hissuer
  exact hnameless ⟨issuer, ClaimSet.nonBlank?_issuer?.1 hissuer⟩

/-- Where there are no audiences to go by, every token meets the same fault, and it is the caller's.
Where there are no issuers, every token that names an issuer does, and any other is blamed for naming
none. -/
theorem misconfigured_blame (σ : Type) (policy : Policy ρ) :
    (policy.LacksIssuers → ∃ fault, fault.kind = .configurationError ∧
      ∀ (token : Token) (session : Session σ ρ),
        (token.claims.NamesIssuer →
          (checkIssuer policy token).outcome session = (.error fault, session)) ∧
        (¬token.claims.NamesIssuer → (checkIssuer policy token).outcome session =
          (.error (.new .invalidIssuer "token has no issuer"), session))) ∧
    (policy.LacksAudiences → ∃ fault, fault.kind = .configurationError ∧
      ∀ (token : Token) (session : Session σ ρ),
        (checkAudience policy token).outcome session = (.error fault, session)) := by
  constructor
  · intro hlacks
    refine ⟨.configuration "issuer validation is enabled but no valid issuers are configured", rfl,
      fun token session => ?_⟩
    rw [outcome_checkIssuer_eq hlacks.isOn hlacks.own]
    constructor
    · rintro ⟨issuer, hissuer⟩
      rw [ClaimSet.nonBlank?_issuer?.2 hissuer, Policy.acceptIssuer_of_lacksIssuers hlacks]
    · intro hnameless
      rw [nonBlank?_issuer?_eq_none hnameless]
      rfl
  · intro hlacks
    refine ⟨.configuration "audience validation is enabled but no valid audiences are configured",
      rfl, fun token session => ?_⟩
    rw [outcome_checkAudience_eq hlacks.isOn hlacks.own,
      Policy.acceptAudience_of_lacksAudiences hlacks]

/-! ### White space for an issuer and for an audience -/

def blankPolicy : Policy Unit :=
  { now := .earliest, issuers := [" ", "\t"], audience := some "" }

theorem lacksIssuers_blankPolicy : blankPolicy.LacksIssuers where
  isOn := rfl
  own := rfl
  blank := by
    rintro entry (hsingle | hmany)
    · exact nomatch hsingle
    · revert entry
      exact List.forall_mem_cons.2 ⟨by decide, List.forall_mem_singleton.2 (by decide)⟩

theorem lacksAudiences_blankPolicy : blankPolicy.LacksAudiences where
  isOn := rfl
  own := rfl
  blank := by
    rintro entry (hsingle | hmany)
    · obtain rfl := Option.some.inj hsingle
      decide
    · exact absurd hmany List.not_mem_nil

/-- A token that names neither an issuer nor an audience. -/
def namelessToken : Token := .signed "" .empty .empty []

theorem not_namesIssuer_namelessToken : ¬namelessToken.claims.NamesIssuer := by
  rintro ⟨issuer, hissuer, -⟩
  exact nomatch hissuer

/-- A token with an issuer shows the fault of the policy, one without does not; the check of audiences
shows it of both. -/
theorem misconfigured_blame_blankPolicy :
    blankPolicy.LacksIssuers ∧ blankPolicy.LacksAudiences ∧
      (∃ fault, fault.kind = .configurationError ∧
        (checkIssuer blankPolicy Policy.statedToken).outcome Policy.namedSession =
          (.error fault, Policy.namedSession)) ∧
      (checkIssuer blankPolicy namelessToken).outcome Policy.namedSession =
        (.error (.new .invalidIssuer "token has no issuer"), Policy.namedSession) ∧
      ∃ fault, fault.kind = .configurationError ∧
        (checkAudience blankPolicy namelessToken).outcome Policy.namedSession =
            (.error fault, Policy.namedSession) ∧
          (checkAudience blankPolicy Policy.statedToken).outcome Policy.namedSession =
            (.error fault, Policy.namedSession) := by
  obtain ⟨hissuers, haudiences⟩ := misconfigured_blame Unit blankPolicy
  obtain ⟨ofIssuers, hkind, hissuers⟩ := hissuers lacksIssuers_blankPolicy
  obtain ⟨ofAudiences, hkind', haudiences⟩ := haudiences lacksAudiences_blankPolicy
  have hnamed : Policy.statedToken.claims.NamesIssuer := ⟨"issuer", rfl, by decide⟩
  exact ⟨lacksIssuers_blankPolicy, lacksAudiences_blankPolicy,
    ⟨ofIssuers, hkind, (hissuers _ _).1 hnamed⟩, (hissuers _ _).2 not_namesIssuer_namelessToken,
    ofAudiences, hkind', haudiences _ _, haudiences _ _⟩

/-- Nothing is configured, and a token without an issuer is to blame. -/
theorem not_forall_configurationError :
    ¬∀ (policy : Policy Unit) (token : Token) (session : Session Unit Unit),
      policy.LacksIssuers → ∃ fault, fault.kind = .configurationError ∧
        (checkIssuer policy token).outcome session = (.error fault, session) := by
  intro hblamed
  obtain ⟨fault, hkind, hfault⟩ :=
    hblamed blankPolicy namelessToken Policy.namedSession lacksIssuers_blankPolicy
  have hinvalid : (checkIssuer blankPolicy namelessToken).outcome Policy.namedSession =
      (.error (.new .invalidIssuer "token has no issuer"), Policy.namedSession) := by
    rw [outcome_checkIssuer_eq rfl rfl, nonBlank?_issuer?_eq_none not_namesIssuer_namelessToken]
    rfl
  rw [hinvalid] at hfault
  obtain rfl := Except.error.inj (Prod.mk.inj hfault).1
  exact nomatch hkind

end Validation

end SecurityToken
