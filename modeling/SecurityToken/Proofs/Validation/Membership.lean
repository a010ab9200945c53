import SecurityToken.Proofs.Validation.Acceptance
import SecurityToken.Proofs.Validation.Relaxation
import Mathlib.Logic.Relation

/-!
# Issuers and audiences as sets of names

An issuer or an audience is accepted if its text, exactly as it stands, is among those configured.
White space alone is no name: it is passed over on both sides, and nothing else is trimmed. So each
side counts as the set of its names only. The order of entries, their repetition, the field they
stand in and the blank ones among them make no difference.
-/

namespace SecurityToken

variable {ρ : Type}

/-- What no step changes is the same after any number of steps, made or undone. -/
theorem iff_of_eqvGen {α : Type} {step : α → α → Prop} {holds : α → Prop}
    (hstep : ∀ {before after}, step before after → (holds before ↔ holds after))
    {before after : α} (hsteps : Relation.EqvGen step before after) :
    holds before ↔ holds after := by
  induction hsteps with
  | rel _ _ hrel => exact hstep hrel
  | refl _ => exact Iff.rfl
  | symm _ _ _ ih => exact ih.symm
  | trans _ _ _ _ _ ih ih' => exact ih.trans ih'

/-! ### Configured entries -/

/-- The entries that are configured for one check: one in a field of its own, and a list. -/
structure Entries where
  single : Option String
  many : List String

namespace Entries

variable {entries edited : Entries} {name : String}

def Trusts (entries : Entries) (name : String) : Prop :=
  (entries.single = some name ∨ name ∈ entries.many) ∧ Text.isBlank name = false

/-- A change that leaves the names: entries change places, between the two fields as well, one is
repeated, or a blank one is added. -/
inductive Edit : Entries → Entries → Prop where
  | rearrange {single single' : Option String} {many many' : List String}
      (hperm : (single.toList ++ many).Perm (single'.toList ++ many')) :
      Edit ⟨single, many⟩ ⟨single', many'⟩
  | duplicate {single : Option String} {many : List String} {entry : String}
      (hmem : single = some entry ∨ entry ∈ many) : Edit ⟨single, many⟩ ⟨single, entry :: many⟩
  | blank {single : Option String} {many : List String} {entry : String}
      (hblank : Text.isBlank entry = true) : Edit ⟨single, many⟩ ⟨single, entry :: many⟩

theorem mem_append_iff {single : Option String} {many : List String} :
    name ∈ single.toList ++ many ↔ single = some name ∨ name ∈ many := by
  rw [List.mem_append, Option.mem_toList]

theorem Edit.trusts_iff (hedit : Edit entries edited) (name : String) :
    entries.Trusts name ↔ edited.Trusts name := by
  refine and_congr_left fun hname => ?_
  cases hedit with
  | rearrange hperm => exact mem_append_iff.symm.trans (hperm.mem_iff.trans mem_append_iff)
  | duplicate hmem =>
      rw [List.mem_cons]
      refine ⟨Or.imp_right .inr, ?_⟩
      rintro (hsingle | rfl | hmany)
      · exact .inl hsingle
      · exact hmem
      · exact .inr hmany
  | @blank _ _ entry hblank =>
      have hne : name ≠ entry := by
        rintro rfl
        exact nomatch hname.symm.trans hblank
      rw [List.mem_cons, or_iff_right hne]

/-- Whether edits lead from one to the other, some of them perhaps backwards. -/
def SameNames : Entries → Entries → Prop :=
  Relation.EqvGen Edit

theorem SameNames.trusts_iff (hsame : entries.SameNames edited) (name : String) :
    entries.Trusts name ↔ edited.Trusts name :=
  iff_of_eqvGen (fun hedit => hedit.trusts_iff name) hsame

end Entries

/-! ### The audiences of a token -/

namespace Json

variable {value edited : Json} {text : String}

/-- Whether a value is a text, or an array with the text in it. -/
def Holds (text : String) : Json → Prop
  | string alone => alone = text
  | array items => string text ∈ items
  | _ => False

def Names (value : Json) (text : String) : Prop :=
  value.Holds text ∧ Text.isBlank text = false

/-- A change to a list of audiences that leaves its names: items change places, one is repeated, a
blank one is added or something that is no text, or a text is put in a list by itself. -/
inductive Edit : Json → Json → Prop where
  | rearrange {items items' : List Json} (hperm : items.Perm items') :
      Edit (array items) (array items')
  | duplicate {items : List Json} {item : Json} (hmem : item ∈ items) :
      Edit (array items) (array (item :: items))
  | blank {items : List Json} {text : String} (hblank : Text.isBlank text = true) :
      Edit (array items) (array (string text :: items))
  | other {items : List Json} {item : Json} (hother : ∀ text, item ≠ string text) :
      Edit (array items) (array (item :: items))
  | enlist {text : String} : Edit (string text) (array [string text])

theorem Edit.names_iff (hedit : Edit value edited) (text : String) :
    value.Names text ↔ edited.Names text := by
  refine and_congr_left fun htext => ?_
  cases hedit with
  | rearrange hperm => exact hperm.mem_iff
  | duplicate hmem =>
      refine ⟨List.mem_cons_of_mem _, fun hcons => ?_⟩
      rcases List.mem_cons.1 hcons with rfl | hitems
      · exact hmem
      · exact hitems
  | @blank _ entry hblank =>
      have hne : string text ≠ string entry := by
        rintro ⟨⟩
        exact nomatch htext.symm.trans hblank
      exact (List.mem_cons.trans (or_iff_right hne)).symm
  | other hother => exact (List.mem_cons.trans (or_iff_right (hother text).symm)).symm
  | enlist =>
      refine Iff.trans ?_ List.mem_singleton.symm
      exact ⟨fun heq => congrArg string heq.symm, fun heq => (string.inj heq).symm⟩

/-- Whether edits lead from one to the other, some of them perhaps backwards. -/
def SameNames : Json → Json → Prop :=
  Relation.EqvGen Edit

theorem SameNames.names_iff (hsame : value.SameNames edited) (text : String) :
    value.Names text ↔ edited.Names text :=
  iff_of_eqvGen (fun hedit => hedit.names_iff text) hsame

end Json

namespace ClaimSet

variable {claims edited : ClaimSet}

theorem issuer?_eq_some {issuer : String} :
    claims.issuer? = some issuer ↔ claims.get? "iss" = some (.string issuer) :=
  Json.bind_string?_eq_some

/-- The issuer that counts is a text, and not white space alone. -/
theorem nonBlank?_issuer? {issuer : String} :
    nonBlank? claims.issuer? = some issuer ↔
      claims.get? "iss" = some (.string issuer) ∧ Text.isBlank issuer = false := by
  rw [nonBlank?, Option.filter_eq_some_iff, issuer?_eq_some, Bool.not_eq_true']

theorem mem_audiences {audience : String} :
    audience ∈ claims.audiences ↔
      ∃ value, claims.get? "aud" = some value ∧ value.Holds audience := by
  unfold audiences
  cases claims.get? "aud" with
  | none => simp
  | some value =>
      cases value with
      | string alone => simp [Json.Holds, eq_comm]
      | array items => simp [Json.Holds, Json.string?_eq_some]
      | _ => simp [Json.Holds]

def NamesAudience (claims : ClaimSet) (audience : String) : Prop :=
  ∃ value, claims.get? "aud" = some value ∧ value.Names audience

theorem namesAudience_iff {audience : String} :
    claims.NamesAudience audience ↔
      audience ∈ claims.audiences ∧ Text.isBlank audience = false := by
  simp only [NamesAudience, Json.Names, mem_audiences, exists_and_right, ← and_assoc]

theorem namesAudience_congr
    (hsame : Option.Rel Json.SameNames (claims.get? "aud") (edited.get? "aud"))
    (audience : String) : claims.NamesAudience audience ↔ edited.NamesAudience audience := by
  unfold NamesAudience
  generalize claims.get? "aud" = stated at hsame ⊢
  generalize edited.get? "aud" = stated' at hsame ⊢
  cases hsame with
  | some hvalue => simp [hvalue.names_iff audience]
  | none => simp

end ClaimSet

/-! ### The checks -/

namespace Policy

variable {policy : Policy ρ}

def issuerEntries (policy : Policy ρ) : Entries := ⟨policy.issuer, policy.issuers⟩

def audienceEntries (policy : Policy ρ) : Entries := ⟨policy.audience, policy.audiences⟩

/-- Whether a policy has issuers and audiences checked, and not by functions of its own. -/
structure ChecksNames (policy : Policy ρ) : Prop where
  validateIssuer : policy.validateIssuer = true
  validateAudience : policy.validateAudience = true
  issuerValidator : policy.issuerValidator = none
  audienceValidator : policy.audienceValidator = none

theorem mem_accepted {single : Option String} {many : List String} {name : String} :
    name ∈ accepted single many ↔ Entries.Trusts ⟨single, many⟩ name := by
  rw [accepted, List.mem_filter, Entries.mem_append_iff, Bool.not_eq_true', Entries.Trusts]

theorem acceptIssuer_eq_ok_iff {issuer : Option String} {found : String} :
    policy.acceptIssuer issuer = .ok found ↔
      issuer = some found ∧ policy.issuerEntries.Trusts found := by
  refine ⟨fun haccept => (acceptIssuer_eq_ok haccept).imp_right mem_accepted.1, ?_⟩
  rintro ⟨rfl, htrusts⟩
  exact acceptIssuer_of_mem (mem_accepted.2 htrusts)

theorem acceptAudience_eq_ok_iff {audiences : List String} :
    policy.acceptAudience audiences = .ok () ↔
      ∃ audience ∈ audiences, policy.audienceEntries.Trusts audience := by
  constructor
  · intro haccept
    obtain ⟨audience, haccepted, hmem⟩ := acceptAudience_eq_ok haccept
    exact ⟨audience, hmem, mem_accepted.1 haccepted⟩
  · rintro ⟨audience, hmem, htrusts⟩
    exact acceptAudience_of_mem (mem_accepted.2 htrusts) hmem

end Policy

namespace Validation

variable {σ : Type} {policy : Policy ρ} {token : Token} {session : Session σ ρ} {issuer : String}

theorem outcome_checkIssuer_eq (hvalidates : policy.validateIssuer = true)
    (hdefault : policy.issuerValidator = none) :
    (checkIssuer policy token).outcome session =
      (policy.acceptIssuer (nonBlank? token.claims.issuer?), session) := by
  unfold checkIssuer
  simp only [if_pos hvalidates, hdefault, Run.outcome_lift]

theorem outcome_checkAudience_eq (hvalidates : policy.validateAudience = true)
    (hdefault : policy.audienceValidator = none) :
    (checkAudience policy token).outcome session =
      (policy.acceptAudience (token.claims.audiences.filter fun audience =>
        !Text.isBlank audience), session) := by
  unfold checkAudience
  simp only [if_pos hvalidates, hdefault, Run.outcome_lift]

theorem checkIssuer_eq_ok (hchecks : policy.ChecksNames) :
    ((checkIssuer policy token).outcome session).1 = .ok issuer ↔
      token.claims.get? "iss" = some (.string issuer) ∧ policy.issuerEntries.Trusts issuer := by
  rw [outcome_checkIssuer_eq hchecks.validateIssuer hchecks.issuerValidator,
    Policy.acceptIssuer_eq_ok_iff, ClaimSet.nonBlank?_issuer?]
  exact ⟨fun h => ⟨h.1.1, h.2⟩, fun h => ⟨⟨h.1, h.2.2⟩, h.2⟩⟩

theorem checkAudience_eq_ok (hchecks : policy.ChecksNames) :
    ((checkAudience policy token).outcome session).1 = .ok () ↔
      ∃ audience, token.claims.NamesAudience audience ∧
        policy.audienceEntries.Trusts audience := by
  rw [outcome_checkAudience_eq hchecks.validateAudience hchecks.audienceValidator,
    Policy.acceptAudience_eq_ok_iff]
  refine exists_congr fun audience => and_congr_left fun _ => ?_
  rw [List.mem_filter, Bool.not_eq_true', ClaimSet.namesAudience_iff]

end Validation

/-- Whether the checks of a policy go by names alone: what they accept is what is named on both
sides, and edits that leave the names of either side leave it as it is. -/
structure Policy.MatchesNames (policy : Policy ρ) (σ : Type) : Prop where
  issuer : ∀ (token : Token) (session : Session σ ρ) issuer,
    ((Validation.checkIssuer policy token).outcome session).1 = .ok issuer ↔
      token.claims.get? "iss" = some (.string issuer) ∧ policy.issuerEntries.Trusts issuer
  audience : ∀ (token : Token) (session : Session σ ρ),
    ((Validation.checkAudience policy token).outcome session).1 = .ok () ↔
      ∃ audience, token.claims.NamesAudience audience ∧ policy.audienceEntries.Trusts audience
  keepsIssuer : ∀ edited : Policy ρ, edited.ChecksNames →
    policy.issuerEntries.SameNames edited.issuerEntries →
    ∀ (token token' : Token) (session session' : Session σ ρ) issuer,
      token.claims.get? "iss" = token'.claims.get? "iss" →
      (((Validation.checkIssuer policy token).outcome session).1 = .ok issuer ↔
        ((Validation.checkIssuer edited token').outcome session').1 = .ok issuer)
  keepsAudience : ∀ edited : Policy ρ, edited.ChecksNames →
    policy.audienceEntries.SameNames edited.audienceEntries →
    ∀ (token token' : Token) (session session' : Session σ ρ),
      Option.Rel Json.SameNames (token.claims.get? "aud") (token'.claims.get? "aud") →
      (((Validation.checkAudience policy token).outcome session).1 = .ok () ↔
        ((Validation.checkAudience edited token').outcome session').1 = .ok ())

/-- A policy that leaves issuers and audiences to the handler has them accepted by their names. -/
theorem Policy.ChecksNames.matchesNames {policy : Policy ρ} (hchecks : policy.ChecksNames)
    (σ : Type) : policy.MatchesNames σ where
  issuer _ _ _ := Validation.checkIssuer_eq_ok hchecks
  audience _ _ := Validation.checkAudience_eq_ok hchecks
  keepsIssuer edited hedited hentries token token' session session' issuer htoken := by
    rw [Validation.checkIssuer_eq_ok hchecks, Validation.checkIssuer_eq_ok hedited, htoken,
      hentries.trusts_iff issuer]
  keepsAudience edited hedited hentries token token' session session' htoken := by
    rw [Validation.checkAudience_eq_ok hchecks, Validation.checkAudience_eq_ok hedited]
    exact exists_congr fun audience =>
      and_congr (ClaimSet.namesAudience_congr htoken audience) (hentries.trusts_iff audience)

/-! The same names, each by itself and among others. -/

namespace Policy

def gathered : Policy Unit :=
  { now := .earliest, issuer := some "issuer", audience := some "audience" }

def scattered : Policy Unit :=
  { now := .earliest, issuers := ["", "issuer"], audience := some "audience",
    audiences := ["audience"] }

def namedSession : Session Unit Unit := ⟨(), (), []⟩

def namedToken (audiences : Json) : Token :=
  .signed "head.payload." .empty
    ((ClaimSet.empty.insertText "iss" "issuer").insert "aud" audiences) []

def statedToken : Token := namedToken (.string "audience")

def listedToken : Token := namedToken (.array [.null, .string "audience"])

/-- The issuer goes into the list, with a blank entry; the audience is there twice, and the token has
it in a list with what is no text. -/
theorem matchesNames_scattered :
    gathered.ChecksNames ∧ scattered.ChecksNames ∧
      ((Validation.checkIssuer scattered listedToken).outcome namedSession).1 = .ok "issuer" ∧
      ((Validation.checkAudience scattered listedToken).outcome namedSession).1 = .ok () := by
  have hgathered : gathered.ChecksNames := ⟨rfl, rfl, rfl, rfl⟩
  have hscattered : scattered.ChecksNames := ⟨rfl, rfl, rfl, rfl⟩
  have hmatches : gathered.MatchesNames Unit := hgathered.matchesNames Unit
  have hissuers : gathered.issuerEntries.SameNames scattered.issuerEntries :=
    .trans _ ⟨none, ["issuer"]⟩ _ (.rel _ _ (.rearrange (List.Perm.refl ["issuer"])))
      (.rel _ _ (.blank (by decide)))
  have haudiences : gathered.audienceEntries.SameNames scattered.audienceEntries :=
    .rel _ _ (.duplicate (.inl rfl))
  have hlisted : Option.Rel Json.SameNames (statedToken.claims.get? "aud")
      (listedToken.claims.get? "aud") :=
    .some (.trans _ _ _ (.rel _ _ .enlist) (.rel _ _ (.other fun _ => nofun)))
  have hissuer : ((Validation.checkIssuer gathered statedToken).outcome namedSession).1 =
      .ok "issuer" :=
    (hmatches.issuer _ _ _).2 ⟨rfl, .inl rfl, by decide⟩
  have haudience : ((Validation.checkAudience gathered statedToken).outcome namedSession).1 =
      .ok () :=
    (hmatches.audience _ _).2 ⟨"audience", ⟨_, rfl, rfl, by decide⟩, .inl rfl, by decide⟩
  exact ⟨hgathered, hscattered,
    (hmatches.keepsIssuer _ hscattered hissuers _ _ _ _ _ rfl).1 hissuer,
    (hmatches.keepsAudience _ hscattered haudiences _ _ _ _ hlisted).1 haudience⟩

end Policy

end SecurityToken
