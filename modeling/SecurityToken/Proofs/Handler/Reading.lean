import SecurityToken.Proofs.Crypto.Content
import SecurityToken.Proofs.Handler.Creation
import SecurityToken.Proofs.Handler.Draft
import SecurityToken.Proofs.Suite.Cache

/-!
# A created token is read back

The maker of a token puts it together from its parts, and the reader takes it apart again from the
text. Both come to the same token, but for the token inside an encrypted one, which the reader cannot
see. For a signed token this is a matter of writing alone. For an encrypted one it rests on the
ciphers as well, which must leave nothing empty that the reader wants filled; a memory of ciphers is
to be trusted there as far as it holds what the suite would build.
-/

namespace SecurityToken

variable {ρ : Type}

/-- A token as a reader finds it: unopened. -/
def Token.closed : Token → Token
  | signed raw header claims signature => signed raw header claims signature
  | encrypted raw header content _ => encrypted raw header content none

namespace SchemeCache

variable {cache : SchemeCache}

theorem ciphers_signature (isLive : KeyHandle → Bool) (key : Key) (name : String)
    (forSigning : Bool) :
    ((SchemeCache.signature isLive key name forSigning).run cache).2.ciphers = cache.ciphers := by
  unfold SchemeCache.signature
  simp only [StateT.run]
  cases SignatureAlgorithm.ofName name with
  | error fault => rfl
  | ok algorithm => rfl

theorem content_eq_ok (hcache : cache.ciphers.Faithful ContentCipher.ofAlgorithm) {name : String}
    {cipher : ContentCipher} (hanswer : ((SchemeCache.content name).run cache).1 = .ok cipher) :
    ∃ algorithm, ContentCipher.ofAlgorithm algorithm = .ok cipher := by
  unfold SchemeCache.content at hanswer
  simp only [StateT.run] at hanswer
  cases hname : ContentAlgorithm.ofName name with
  | error fault =>
      rw [hname] at hanswer
      cases hanswer
  | ok algorithm =>
      rw [hname] at hanswer
      obtain ⟨hbuilt, _⟩ := hcache.request (fun _ => true) cache.requests algorithm
      exact ⟨algorithm, hbuilt.symm.trans hanswer⟩

end SchemeCache

namespace Handler

open Creation

variable {handler : Handler SchemeCache} {isLive : KeyHandle → Bool} {entropy : Entropy}
  {draft : Draft} {claims : ClaimSet} {before after : Session SchemeCache ρ} {token : Token}

theorem ciphers_signature (hsuite : handler.suite = .caching isLive) {input : String}
    {signature : Bytes}
    (hrun : (handler.signature entropy draft input).outcome before = (.ok signature, after)) :
    after.suite.ciphers = before.suite.ciphers := by
  unfold Handler.signature at hrun
  cases hsigning : draft.signing with
  | none =>
      rw [hsigning] at hrun
      obtain ⟨_, rfl⟩ := outcome_pure_eq_ok.1 hrun
      rfl
  | some credential =>
      rw [hsigning, hsuite] at hrun
      obtain ⟨scheme, _, hrun⟩ := outcome_ask_serve_eq_ok.1 hrun
      obtain ⟨_, rfl⟩ := outcome_serve_eq_ok.1 hrun
      exact SchemeCache.ciphers_signature isLive _ _ _

theorem parse_of_sign {σ : Type} {handler : Handler σ} {before after : Session σ ρ}
    (hdraft : draft.Plain) (hclaims : Json.ofText? claims.json.text = some claims.json)
    (hrun : (handler.sign entropy draft claims).outcome before = (.ok token, after))
    (allowUnsigned : Bool) : Compact.parse allowUnsigned token.raw = .ok token := by
  obtain ⟨signature, _, rfl⟩ := outcome_sign_eq_ok.1 hrun
  exact Compact.parse_writeSigned allowUnsigned (hdraft.signedHeader _).ofText?_json hclaims
    (Option.isSome_of_eq_some (algorithm?_signedHeader draft _)) signature

theorem ciphers_sign (hsuite : handler.suite = .caching isLive)
    (hrun : (handler.sign entropy draft claims).outcome before = (.ok token, after)) :
    after.suite.ciphers = before.suite.ciphers := by
  obtain ⟨_, hsignature, _⟩ := outcome_sign_eq_ok.1 hrun
  exact ciphers_signature hsuite hsignature

theorem parse_of_encrypt {credential : EncryptingCredential} {inner : Token}
    (hsuite : handler.suite = .caching isLive)
    (hcache : before.suite.ciphers.Faithful ContentCipher.ofAlgorithm) (hinner : inner.raw ≠ "")
    (hrun : (handler.encrypt entropy credential inner).outcome before = (.ok token, after))
    (allowUnsigned : Bool) : Compact.parse allowUnsigned token.raw = .ok token.closed := by
  obtain ⟨header, encryptedKey, contentKey, cipher, scheme, sealing, rfl, hcipher, _, _, _,
    hsealing, rfl⟩ := encrypt_eq_ok hrun
  rw [hsuite] at hcipher
  obtain ⟨algorithm, hbuilt⟩ := SchemeCache.content_eq_ok hcache hcipher
  have hfilled := ContentCipher.encrypt_filled hbuilt (Compact.ofText_ne_nil.2 hinner) hsealing
  obtain ⟨halgorithm, hencryption⟩ := text?_encryptedHeader credential.key
    (handler.algorithmName credential.keyAlgorithm)
    (handler.algorithmName credential.contentAlgorithm)
  exact Compact.parse_writeEncrypted allowUnsigned (plain_encryptedHeader _ _ _).ofText?_json
    (Option.isSome_of_eq_some halgorithm) (Option.isSome_of_eq_some hencryption) hfilled.iv
    hfilled.ciphertext hfilled.tag

/-- Whatever is created is read back from its text, unopened. -/
theorem parse_of_create {now : Instant} (hsuite : handler.suite = .caching isLive)
    (hcache : before.suite.ciphers.Faithful ContentCipher.ofAlgorithm) (hdraft : draft.Plain)
    (hcreate : outcome (handler.create entropy now draft) before = (.ok token, after))
    (allowUnsigned : Bool) : Compact.parse allowUnsigned token.raw = .ok token.closed := by
  obtain ⟨claims, hclaims, hrun⟩ := outcome_create_eq_ok.1 hcreate
  obtain ⟨inner, middle, hsign, hrun⟩ := Run.outcome_bind_eq_ok.1 hrun
  have hinner := parse_of_sign hdraft (hdraft.ofText?_claims hclaims) hsign
  cases hencrypting : draft.encrypting with
  | none =>
      rw [hencrypting] at hrun
      obtain ⟨rfl, _⟩ := outcome_pure_eq_ok.1 hrun
      obtain ⟨_, _, rfl⟩ := outcome_sign_eq_ok.1 hsign
      exact hinner allowUnsigned
  | some credential =>
      rw [hencrypting] at hrun
      refine parse_of_encrypt hsuite ?_ ?_ hrun allowUnsigned
      · rwa [ciphers_sign hsuite hsign]
      · -- The empty text is no token.
        intro hempty
        have hread := hinner true
        rw [hempty] at hread
        cases hread

/-- A created token is read back from what is written of it, unless the handler takes its text to be
too long: with the same text, header and content, and where it is not encrypted with the same claims
and signature. -/
theorem read_write_create {now : Instant} {name : String}
    (hformat : handler.format = { TokenFormat.compact with name })
    (hsuite : handler.suite = .caching isLive)
    (hcache : before.suite.ciphers.Faithful ContentCipher.ofAlgorithm) (hdraft : draft.Plain)
    (hcreate : outcome (handler.create entropy now draft) before = (.ok token, after))
    (hsize : token.raw.utf8ByteSize ≤ handler.settings.maximumTokenSize) :
    ∃ read, handler.write token >>= handler.read = .ok read ∧ read.raw = token.raw ∧
      read.header = token.header ∧ read.claims = token.claims ∧
      read.signature = token.signature ∧ read.content? = token.content? := by
  have hparse : TokenFormat.compact.parse true token.raw = .ok token.closed :=
    Compact.compact_parse_eq_ok.2 (parse_of_create hsuite hcache hdraft hcreate true)
  have hwrite : handler.write token = .ok token.raw := by
    unfold write
    rw [hformat]
    exact congrArg Except.ok (Compact.write_eq_raw token)
  have hread : handler.read token.raw = .ok token.closed := by
    unfold read Compact.checkSize
    rw [if_neg (Nat.not_lt.2 hsize), hformat]
    exact hparse
  refine ⟨token.closed, except_bind_eq_ok.2 ⟨token.raw, hwrite, hread⟩, ?_⟩
  cases token with
  | signed raw header claims signature => exact ⟨rfl, rfl, rfl, rfl, rfl⟩
  | encrypted raw header content inner => exact ⟨rfl, rfl, rfl, rfl, rfl⟩

/-! ### An unsigned token with a claim inside an array -/

def roleHandler : Handler SchemeCache where
  suite := .caching fun _ => true
  mapping := .empty
  settings := { Settings.standard with defaultTimes := false }

def roleDraft : Draft where
  claims := [.new "role" "[true]" .json]
  header := Header.empty.insert "b64" (.bool true)

theorem plain_roleDraft : roleDraft.Plain where
  claims := by
    intro claim hclaim
    obtain rfl := List.mem_singleton.1 hclaim
    refine .array fun item hitem => ?_
    obtain rfl := List.mem_singleton.1 hitem
    exact .bool true
  header := by
    intro member hmember
    obtain rfl := List.mem_singleton.1 hmember
    exact .bool true
  distinct := by
    intro member hmember
    obtain rfl := List.mem_singleton.1 hmember
    exact .bool true

set_option maxRecDepth 10000 in
theorem create_roleDraft :
    (outcome (roleHandler.create ⟨fun _ _ => 0⟩ default roleDraft)
      (⟨∅, (), []⟩ : Session SchemeCache Unit)).1.toOption.any
        (fun token => decide (token.raw.utf8ByteSize ≤ 256000)) = true := by
  decide +kernel

theorem read_write_create_roleDraft :
    ∃ token after read,
      outcome (roleHandler.create ⟨fun _ _ => 0⟩ default roleDraft)
        (⟨∅, (), []⟩ : Session SchemeCache Unit) = (.ok token, after) ∧
      roleHandler.write token >>= roleHandler.read = .ok read ∧ read.raw = token.raw ∧
      read.claims = token.claims := by
  have hsample := create_roleDraft
  rcases hcreate : outcome (roleHandler.create ⟨fun _ _ => 0⟩ default roleDraft)
    (⟨∅, (), []⟩ : Session SchemeCache Unit) with ⟨fault | token, after⟩
  · rw [hcreate] at hsample
    cases hsample
  rw [hcreate] at hsample
  obtain ⟨read, hread, hraw, _, hclaims, _⟩ := read_write_create rfl rfl Shelf.faithful_empty
    plain_roleDraft hcreate (of_decide_eq_true hsample)
  exact ⟨token, after, read, rfl, hread, hraw, hclaims⟩

end Handler

end SecurityToken
