import SecurityToken.Crypto.Suite.Cache
import SecurityToken.Proofs.Validation.Opening
import SecurityToken.Proofs.Validation.Stages
import Mathlib.Tactic.Linarith

/-!
# How deep tokens lie inside one another

A text leads to a token, an encrypted token to the one inside it, and a token that was accepted to
the token of its actor. A chain lists the tokens on this way, level by level of actors: the token that
a text holds and then those that were decrypted from it. One setting limits the depth, and it is used
up by both kinds of step, but not alike. The levels that remain for decryption start from what the
actors above have left. The levels that remain for an actor do not start from what decryption has left
to the token that names it. So at each level the actors above and the decryptions at that level
together stay within the limit, while the chain as a whole may be longer.
-/

namespace SecurityToken

variable {σ ρ : Type}

namespace Handler

/-- How a run opens an encrypted token: the tokens that it decrypts one from another, and the token
with all of them inside. Claims that are bare in the content are no token of their own. -/
inductive Opens (handler : Handler σ) (policy : Policy ρ) :
    Token → Session σ ρ → List Token → Token → Session σ ρ → Prop where
  | bare {token : Token} {before after : Session σ ρ} {payload : String} {claims : ClaimSet}
      (hpayload : (handler.payload policy token).outcome before = (.ok payload, after))
      (hbare : Decryption.isObject payload = true)
      (hclaims : Decryption.claims? payload = some claims) :
      Opens handler policy token before []
        (token.withInner (.signed token.raw token.header claims [])) after
  | signed {token inner : Token} {before middle after : Session σ ρ} {payload : String}
      (hpayload : (handler.payload policy token).outcome before = (.ok payload, middle))
      (hcompact : Decryption.isObject payload = false)
      (hread : (handler.parse policy payload).outcome middle = (.ok inner, after))
      (hsigned : inner.isEncrypted = false) :
      Opens handler policy token before [inner] (token.withInner inner) after
  | encrypted {token inner opened : Token} {before middle last after : Session σ ρ}
      {payload : String} {layers : List Token}
      (hpayload : (handler.payload policy token).outcome before = (.ok payload, middle))
      (hcompact : Decryption.isObject payload = false)
      (hread : (handler.parse policy payload).outcome middle = (.ok inner, last))
      (hencrypted : inner.isEncrypted = true)
      (hinner : Opens handler policy inner last layers opened after) :
      Opens handler policy token before (inner :: layers) (token.withInner opened) after

/-- The tokens that a text holds: the one that is read from it, and those that lie inside under
encryption. -/
inductive Holds (handler : Handler σ) (policy : Policy ρ) (raw : String) (before : Session σ ρ) :
    List Token → Token → Session σ ρ → Prop where
  | signed {token : Token} {after : Session σ ρ}
      (hread : (handler.parse policy raw).outcome before = (.ok token, after))
      (hsigned : token.isEncrypted = false) : Holds handler policy raw before [token] token after
  | encrypted {token opened : Token} {middle after : Session σ ρ} {layers : List Token}
      (hread : (handler.parse policy raw).outcome before = (.ok token, middle))
      (hencrypted : token.isEncrypted = true)
      (hopens : handler.Opens policy token middle layers opened after) :
      Holds handler policy raw before (token :: layers) opened after

/-- The stages after the opening of a token, but for that of the actor. -/
def judge (handler : Handler σ) (policy : Policy ρ) (raw : String) (opened : Token) :
    Run σ ρ Identity := do
  let verified ← Run.atStage "signature" (handler.verify policy opened.innermost)
  let issuer ← Run.atStage "issuer" (Validation.checkIssuer policy verified.token)
  Run.atStage "audience" (Validation.checkAudience policy verified.token)
  let expires ← Run.atStage "lifetime" (Validation.checkLifetime policy verified.token)
  Run.atStage "replay" (Validation.checkReplay policy raw expires)
  return handler.identify policy raw ⟨verified, issuer, expires⟩

/-- The tokens on the way down from a text, level by level of actors. A chain may end at any level. -/
inductive Chain (handler : Handler σ) :
    Policy ρ → String → Session σ ρ → List (List Token) → Prop where
  | last {policy : Policy ρ} {raw : String} {before after : Session σ ρ} {tokens : List Token}
      {opened : Token} (hholds : handler.Holds policy raw before tokens opened after) :
      Chain handler policy raw before [tokens]
  | actor {policy : Policy ρ} {raw actorRaw : String} {before middle after : Session σ ρ}
      {tokens : List Token} {opened : Token} {own : Identity} {levels : List (List Token)}
      (hholds : handler.Holds policy raw before tokens opened middle)
      (hjudge : (handler.judge policy raw opened).outcome middle = (.ok own, after))
      (hactor : policy.validateActor = true)
      (htoken : own.token.claims.actorToken? = some actorRaw)
      (hinner : Chain handler policy.actorPolicy actorRaw (after.noting (.enterActor actorRaw))
        levels) :
      Chain handler policy raw before (tokens :: levels)

variable {handler : Handler σ} {policy : Policy ρ} {raw : String} {token opened : Token}
  {tokens layers : List Token} {before after middle : Session σ ρ} {identity : Identity}
  {remaining : Nat}

/-! ### Decryption -/

theorem opens_of_bare {payload : String}
    (hpayload : (handler.payload policy token).outcome before = (.ok payload, middle))
    (hbare : Decryption.isObject payload = true)
    (hrun : (handler.decrypt policy remaining token).outcome before = (.ok opened, after)) :
    handler.Opens policy token before [] opened after := by
  unfold decrypt at hrun
  rw [Run.outcome_bind, hpayload] at hrun
  simp only [hbare, if_true] at hrun
  split at hrun
  next claims hclaims =>
    obtain ⟨hopened, rfl⟩ := Prod.mk.inj hrun
    obtain rfl := Except.ok.inj hopened
    exact .bare hpayload hbare hclaims
  next => cases (Prod.mk.inj hrun).1

theorem exists_opens
    (hrun : (handler.decrypt policy remaining token).outcome before = (.ok opened, after)) :
    ∃ layers, handler.Opens policy token before layers opened after := by
  induction remaining generalizing token opened before with
  | zero =>
      have hsteps := hrun
      rw [decrypt] at hsteps
      obtain ⟨payload, middle, hpayload, hsteps⟩ := Run.outcome_bind_eq_ok.1 hsteps
      split at hsteps
      next hbare => exact ⟨[], opens_of_bare hpayload hbare hrun⟩
      next => cases (Prod.mk.inj hsteps).1
  | succ remaining ih =>
      have hsteps := hrun
      rw [decrypt] at hsteps
      obtain ⟨payload, middle, hpayload, hsteps⟩ := Run.outcome_bind_eq_ok.1 hsteps
      split at hsteps
      next hbare => exact ⟨[], opens_of_bare hpayload hbare hrun⟩
      next hcompact =>
        rw [Bool.not_eq_true] at hcompact
        obtain ⟨inner, last, hread, hsteps⟩ := Run.outcome_bind_eq_ok.1 hsteps
        split at hsteps
        next hencrypted =>
          obtain ⟨found, _, hfound, hsteps⟩ := Run.outcome_bind_eq_ok.1 hsteps
          obtain ⟨hopened, rfl⟩ := Prod.mk.inj hsteps
          obtain rfl := Except.ok.inj hopened
          obtain ⟨layers, hinner⟩ := ih hfound
          exact ⟨inner :: layers, .encrypted hpayload hcompact hread hencrypted hinner⟩
        next hsigned =>
          rw [Bool.not_eq_true] at hsigned
          obtain ⟨hopened, rfl⟩ := Prod.mk.inj hsteps
          obtain rfl := Except.ok.inj hopened
          exact ⟨[inner], .signed hpayload hcompact hread hsigned⟩

/-- Each decryption uses up one of the levels that remain. By induction on the layers. -/
theorem Opens.length_le {found : Token} {last : Session σ ρ}
    (hopens : handler.Opens policy token before layers opened after)
    (hrun : (handler.decrypt policy remaining token).outcome before = (.ok found, last)) :
    found = opened ∧ last = after ∧ layers.length ≤ remaining := by
  induction hopens generalizing remaining found last with
  | bare hpayload hbare hclaims =>
      unfold decrypt at hrun
      rw [Run.outcome_bind, hpayload] at hrun
      simp only [hbare, if_true, hclaims, Run.outcome_pure, Prod.mk.injEq, Except.ok.injEq] at hrun
      exact ⟨hrun.1.symm, hrun.2.symm, Nat.zero_le _⟩
  | signed hpayload hcompact hread hsigned =>
      cases remaining with
      | zero =>
          rw [decrypt, Run.outcome_bind, hpayload] at hrun
          simp only [hcompact] at hrun
          exact nomatch (Prod.mk.inj hrun).1
      | succ remaining =>
          rw [decrypt, Run.outcome_bind, hpayload] at hrun
          simp only [hcompact, Bool.false_eq_true, if_false, Run.outcome_bind, hread, hsigned,
            Run.outcome_pure, Prod.mk.injEq, Except.ok.injEq] at hrun
          exact ⟨hrun.1.symm, hrun.2.symm, by simp⟩
  | encrypted hpayload hcompact hread hencrypted hinner ih =>
      cases remaining with
      | zero =>
          rw [decrypt, Run.outcome_bind, hpayload] at hrun
          simp only [hcompact] at hrun
          exact nomatch (Prod.mk.inj hrun).1
      | succ remaining =>
          rw [decrypt, Run.outcome_bind, hpayload] at hrun
          simp only [hcompact, Bool.false_eq_true, if_false] at hrun
          rw [Run.outcome_bind, hread] at hrun
          simp only [hencrypted, if_true] at hrun
          obtain ⟨inner, _, hdeeper, hrun⟩ := Run.outcome_bind_eq_ok.1 hrun
          obtain ⟨rfl, rfl, hlength⟩ := ih hdeeper
          simp only [Run.outcome_pure, Prod.mk.injEq, Except.ok.injEq] at hrun
          refine ⟨hrun.1.symm, hrun.2.symm, ?_⟩
          rw [List.length_cons]
          omega

theorem openToken_eq_ok_read
    (hrun : (handler.openToken policy remaining raw).outcome before = (.ok opened, after)) :
    ∃ token middle, (handler.parse policy raw).outcome before = (.ok token, middle) ∧
      ((token.isEncrypted = true ∧
        (handler.decrypt policy remaining token).outcome middle = (.ok opened, after)) ∨
      (token.isEncrypted = false ∧ token = opened ∧ middle = after)) := by
  unfold openToken at hrun
  obtain ⟨_, start, hsize, hread⟩ := Run.outcome_bind_eq_ok.1 hrun
  obtain rfl : before = start := (Prod.mk.inj (Run.outcome_adapting_eq_ok.1 hsize)).2
  obtain ⟨token, middle, htoken, hopened⟩ := Run.outcome_bind_eq_ok.1 hread
  refine ⟨token, middle, Run.outcome_adapting_eq_ok.1 (Run.outcome_adapting_eq_ok.1 htoken), ?_⟩
  split at hopened
  next hencrypted => exact .inl ⟨hencrypted, Run.outcome_adapting_eq_ok.1 hopened⟩
  next hsigned =>
    obtain ⟨htoken, hmiddle⟩ := Prod.mk.inj hopened
    exact .inr ⟨Bool.not_eq_true _ ▸ hsigned, Except.ok.inj htoken, hmiddle⟩

theorem exists_holds
    (hrun : (handler.openToken policy remaining raw).outcome before = (.ok opened, after)) :
    ∃ tokens, handler.Holds policy raw before tokens opened after := by
  obtain ⟨token, middle, hread, ⟨hencrypted, hrun⟩ | ⟨hsigned, rfl, rfl⟩⟩ :=
    openToken_eq_ok_read hrun
  · obtain ⟨layers, hopens⟩ := exists_opens hrun
    exact ⟨token :: layers, .encrypted hread hencrypted hopens⟩
  · exact ⟨[token], .signed hread hsigned⟩

theorem Holds.length_le {found : Token} {last : Session σ ρ}
    (hholds : handler.Holds policy raw before tokens opened after)
    (hrun : (handler.openToken policy remaining raw).outcome before = (.ok found, last)) :
    found = opened ∧ last = after ∧ tokens.length ≤ remaining + 1 := by
  obtain ⟨token, middle, hread, hfound⟩ := openToken_eq_ok_read hrun
  cases hholds with
  | signed hread' hsigned =>
      obtain ⟨htoken, rfl⟩ := Prod.mk.inj (hread'.symm.trans hread)
      obtain rfl := Except.ok.inj htoken
      rcases hfound with ⟨hencrypted, _⟩ | ⟨_, rfl, rfl⟩
      · rw [hsigned] at hencrypted
        exact nomatch hencrypted
      · exact ⟨rfl, rfl, by simp⟩
  | encrypted hread' hencrypted hopens =>
      obtain ⟨htoken, rfl⟩ := Prod.mk.inj (hread'.symm.trans hread)
      obtain rfl := Except.ok.inj htoken
      rcases hfound with ⟨_, hrun⟩ | ⟨hsigned, _⟩
      · obtain ⟨hopened, hlast, hlength⟩ := hopens.length_le hrun
        exact ⟨hopened, hlast, Nat.succ_le_succ hlength⟩
      · rw [hsigned] at hencrypted
        exact nomatch hencrypted

/-- A text that opens to another token than it holds itself holds more than one. -/
theorem Holds.one_lt_length (hformat : handler.format = .compact)
    (hholds : handler.Holds policy raw before tokens opened after)
    (hinner : opened.innermost.raw ≠ raw) : 1 < tokens.length := by
  have hraw : ∀ {token middle}, (handler.parse policy raw).outcome before = (.ok token, middle) →
      token.raw = raw := by
    intro token middle hread
    obtain ⟨_, hreads⟩ := Compact.parse_eq_ok.1 (parse_eq_ok hformat hread)
    cases token with
    | signed => exact hreads.1
    | encrypted => exact hreads.1
  cases hholds with
  | signed hread hsigned =>
      rw [innermost_of_not_encrypted (by simp [hsigned])] at hinner
      exact absurd (hraw hread) hinner
  | encrypted hread hencrypted hopens =>
      cases hopens with
      | bare =>
          rw [innermost_withInner hencrypted] at hinner
          exact absurd (hraw hread) hinner
      | signed => simp
      | encrypted => simp

/-! ### Chains -/

theorem validateAlone_eq_judge (handler : Handler σ) (policy : Policy ρ) (remaining : Nat)
    (raw : String) :
    handler.validateAlone policy remaining raw =
      handler.openToken policy remaining raw >>= handler.judge policy raw := rfl

/-- The actors above a level and the decryptions at that level stay within the limit together. By
induction on the chain, one level of actors at a time. -/
theorem Chain.length_le {levels : List (List Token)}
    (hchain : handler.Chain policy raw before levels)
    (hrun : (handler.validateWithin policy remaining raw).outcome before = (.ok identity, after))
    (level : Nat) (hlevel : level < levels.length) :
    level + levels[level].length ≤ remaining + 1 := by
  induction hchain generalizing remaining identity after level with
  | last hholds =>
      obtain ⟨own, middle, halone, _⟩ := validateWithin_eq_ok hrun
      rw [validateAlone_eq_judge] at halone
      obtain ⟨found, _, hopen, _⟩ := Run.outcome_bind_eq_ok.1 halone
      obtain rfl : level = 0 := by simpa using hlevel
      simpa using (hholds.length_le hopen).2.2
  | @actor policy raw actorRaw before middle last tokens opened own levels hholds hjudge hactor
      htoken hinner ih =>
      have hcourse := validateWithin_course handler policy remaining raw before
      rw [hrun] at hcourse
      cases hcourse with
      | withoutActor halone hnone =>
          rw [validateAlone_eq_judge] at halone
          obtain ⟨found, _, hopen, hjudge'⟩ := Run.outcome_bind_eq_ok.1 halone
          obtain ⟨rfl, rfl, _⟩ := hholds.length_le hopen
          obtain ⟨hown, _⟩ := Prod.mk.inj (hjudge.symm.trans hjudge')
          obtain rfl := Except.ok.inj hown
          rw [hnone hactor] at htoken
          exact nomatch htoken
      | withActor halone _ htoken' hinner' =>
          rw [validateAlone_eq_judge] at halone
          obtain ⟨found, _, hopen, hjudge'⟩ := Run.outcome_bind_eq_ok.1 halone
          obtain ⟨rfl, rfl, hlength⟩ := hholds.length_le hopen
          obtain ⟨hown, rfl⟩ := Prod.mk.inj (hjudge.symm.trans hjudge')
          obtain rfl := Except.ok.inj hown
          obtain rfl := Option.some.inj (htoken.symm.trans htoken')
          cases level with
          | zero =>
              rw [List.getElem_cons_zero]
              omega
          | succ level =>
              have hbound := ih hinner' level (by simpa using hlevel)
              rw [List.getElem_cons_succ]
              omega

end Handler

/-! ### The length of a chain -/

theorem length_flatten_le_of_level_le {α : Type} {levels : List (List α)} {limit : Nat}
    (hlevels : ∀ level, (hlevel : level < levels.length) → level + levels[level].length ≤ limit) :
    2 * levels.flatten.length ≤ limit * (limit + 1) := by
  induction levels generalizing limit with
  | nil => simp
  | cons first rest ih =>
      have hfirst := hlevels 0 (by simp)
      rw [List.getElem_cons_zero] at hfirst
      rw [List.flatten_cons, List.length_append]
      cases limit with
      | zero =>
          have hnone : rest = [] := by
            by_contra hsome
            have := hlevels 1 (by simpa using List.length_pos_iff.2 hsome)
            omega
          rw [hnone, List.flatten_nil, List.length_nil]
          omega
      | succ limit =>
          have hrest := @ih limit fun level hlevel => by
            have := hlevels (level + 1) (by simpa using hlevel)
            rw [List.getElem_cons_succ] at this
            omega
          nlinarith

theorem length_flatten_le_of_singletons {α : Type} {levels : List (List α)} {limit : Nat}
    (hlevels : ∀ level, (hlevel : level < levels.length) → level + levels[level].length ≤ limit)
    (hsingle : ∀ tokens ∈ levels.dropLast, tokens.length = 1) : levels.flatten.length ≤ limit := by
  induction levels generalizing limit with
  | nil => simp
  | cons first rest ih =>
      have hfirst := hlevels 0 (by simp)
      rw [List.getElem_cons_zero] at hfirst
      cases rest with
      | nil => simpa using hfirst
      | cons second rest =>
          have hone : first.length = 1 := hsingle first (by simp)
          have hrest := @ih (limit - 1)
            (fun level hlevel => by
              have := hlevels (level + 1) (by simpa using hlevel)
              rw [List.getElem_cons_succ] at this
              omega)
            (fun tokens htokens => hsingle tokens (by simpa using .inr htokens))
          rw [List.flatten_cons, List.length_append]
          omega

namespace Handler

variable {handler : Handler σ} {policy : Policy ρ} {raw : String} {before after : Session σ ρ}
  {identity : Identity} {levels : List (List Token)}

/-- Along a chain from an accepted text the actors above a level and the decryptions at that level
stay within the limit together, so that the chain ends after a number of tokens that the limit alone
bounds. The steps of the chain stay within the limit if no actor's token is named by a token that was
decrypted. -/
theorem validate_nesting
    (hrun : (handler.validate policy raw).outcome before = (.ok identity, after))
    (hchain : handler.Chain policy raw before levels) :
    (∀ level, (hlevel : level < levels.length) →
      level + levels[level].length ≤ handler.settings.maximumNestingDepth + 1) ∧
    2 * levels.flatten.length ≤ (handler.settings.maximumNestingDepth + 1) *
      (handler.settings.maximumNestingDepth + 2) ∧
    ((∀ tokens ∈ levels.dropLast, tokens.length = 1) →
      levels.flatten.length - 1 ≤ handler.settings.maximumNestingDepth) := by
  have hlevels := hchain.length_le hrun
  refine ⟨hlevels, length_flatten_le_of_level_le hlevels, fun hsingle => ?_⟩
  have hlength := length_flatten_le_of_singletons hlevels hsingle
  omega

/-! ### An actor's token that is named inside an encrypted token -/

def nestingHandler : Handler SchemeCache where
  suite := .caching fun _ => true
  settings := { Settings.standard with maximumNestingDepth := 1 }

def nestingPolicy : Policy Unit :=
  { Policy.lenient Instant.earliest with
    validateActor := true
    decryptionKeys := [{ handle := 1, material := .secret ((List.range 16).map UInt8.ofNat) }] }

/-- An encrypted token around a token that names the token of an actor. -/
def nestingText : String :=
  "eyJhbGciOiJkaXIiLCJlbmMiOiJBMTI4R0NNIn0..AAAAAAAAAAAAAAAA" ++
    ".LK_NO_vcxeWs4DMBBtCe-MDnQ3cHOLRbPgxfEfX9kDNlE9mGYUix0dArIYGRBbzqyLf1xB4z6CcR" ++
    ".-Q7daH6Ee7L_55Ht0J_sSA"

set_option maxRecDepth 10000 in
/-- The text is accepted with an actor, and the token that was accepted is not the outer one. -/
theorem validate_nestingText :
    ((nestingHandler.validate nestingPolicy nestingText).outcome ⟨∅, (), []⟩).1.toOption.map
      (fun identity => (identity.actor.isSome, identity.token.raw == nestingText)) =
      some (true, false) := by
  decide +kernel

theorem exists_chain_nestingText :
    ∃ identity after levels,
      (nestingHandler.validate nestingPolicy nestingText).outcome ⟨∅, (), []⟩ =
        (.ok identity, after) ∧
      nestingHandler.Chain nestingPolicy nestingText ⟨∅, (), []⟩ levels ∧
      2 < levels.flatten.length := by
  have hsample := validate_nestingText
  rcases hrun : (nestingHandler.validate nestingPolicy nestingText).outcome ⟨∅, (), []⟩ with
    ⟨fault | identity, after⟩
  · rw [hrun] at hsample
    exact nomatch hsample
  rw [hrun] at hsample
  have hcourse := validateWithin_course nestingHandler nestingPolicy 1 nestingText ⟨∅, (), []⟩
  have hwithin : (nestingHandler.validateWithin nestingPolicy 1 nestingText).outcome ⟨∅, (), []⟩ =
      (.ok identity, after) := hrun
  rw [hwithin] at hcourse
  obtain ⟨hactor, hraw⟩ := Prod.mk.inj (Option.some.inj hsample)
  cases hcourse with
  | withoutActor halone _ =>
      obtain ⟨_, _, _, _, hidentity⟩ := validateAlone_eq_ok halone
      rw [hidentity] at hactor
      exact nomatch hactor
  | withActor halone hvalidates htoken hinner =>
      obtain ⟨examined, _, hexamine, _, hown⟩ := validateAlone_eq_ok halone
      obtain ⟨_, _, _, _, _, hopen', hverify, _⟩ := examine_eq_ok hexamine
      rw [validateAlone_eq_judge] at halone
      obtain ⟨opened, middle, hopen, hjudge⟩ := Run.outcome_bind_eq_ok.1 halone
      obtain ⟨hopened, _⟩ := Prod.mk.inj (hopen'.symm.trans hopen)
      obtain rfl := Except.ok.inj hopened
      obtain ⟨tokens, hholds⟩ := exists_holds hopen
      have htokens : 1 < tokens.length := by
        refine hholds.one_lt_length rfl ?_
        rw [← verify_token rfl hverify]
        rw [hown] at hraw
        exact fun heq => absurd hraw (by simp [heq, identify])
      obtain ⟨_, _, halone', _⟩ := validateWithin_eq_ok hinner
      rw [validateAlone_eq_judge] at halone'
      obtain ⟨found, _, hopen'', _⟩ := Run.outcome_bind_eq_ok.1 halone'
      obtain ⟨tokens', hholds'⟩ := exists_holds hopen''
      have htokens' : 0 < tokens'.length := by
        cases hholds' <;> simp
      refine ⟨_, _, [tokens, tokens'], rfl, .actor hholds hjudge hvalidates htoken
        (.last hholds'), ?_⟩
      simp only [List.flatten_cons, List.flatten_nil, List.length_append, List.length_nil]
      omega

theorem validate_nesting_nestingText :
    ∃ levels, nestingHandler.Chain nestingPolicy nestingText ⟨∅, (), []⟩ levels ∧
      2 < levels.flatten.length ∧ 2 * levels.flatten.length ≤ 2 * 3 := by
  obtain ⟨identity, after, levels, hrun, hchain, hlong⟩ := exists_chain_nestingText
  exact ⟨levels, hchain, hlong, (validate_nesting hrun hchain).2.1⟩

/-- The limit is one, and the chain has two steps. -/
theorem not_forall_chain_le :
    ¬∀ (handler : Handler SchemeCache) (policy : Policy Unit) (raw : String)
        (before after : Session SchemeCache Unit) (identity : Identity)
        (levels : List (List Token)),
      (handler.validate policy raw).outcome before = (.ok identity, after) →
      handler.Chain policy raw before levels →
      levels.flatten.length - 1 ≤ handler.settings.maximumNestingDepth := by
  intro hshort
  obtain ⟨identity, after, levels, hrun, hchain, hlong⟩ := exists_chain_nestingText
  have hle : levels.flatten.length - 1 ≤ 1 := hshort _ _ _ _ _ _ _ hrun hchain
  omega

end Handler

end SecurityToken
