import SecurityToken.Crypto.Suite.Cache
import SecurityToken.Proofs.Session.Agreement

/-!
# A memory that shows in no answer

A scheme is kept under the handle of its key, not under its material, so a memory is to be trusted
only as far as a handle stands for one material. A ring says which material that is. A cache is
faithful to a ring when each scheme in it is the one that the ring's material makes; the empty cache
is, and every request for a key of the ring keeps it so. Over such caches the caching suite answers
as the standard one does, which keeps nothing.
-/

namespace SecurityToken

variable {κ α : Type}

namespace Shelf

variable [DecidableEq κ]

/-- Whether each scheme on a shelf is the one that is built for its purpose. -/
def Faithful (shelf : Shelf κ α) (build : κ → Except CryptoFault α) : Prop :=
  ∀ kept ∈ shelf.entries, build kept.key = .ok kept.scheme

variable {shelf : Shelf κ α} {build : κ → Except CryptoFault α}

omit [DecidableEq κ] in
theorem faithful_empty : (empty : Shelf κ α).Faithful build := by
  intro kept hkept
  simp [empty] at hkept

omit [DecidableEq κ] in
theorem Faithful.retain (hshelf : shelf.Faithful build) (keep : κ → Bool) :
    (shelf.retain keep).Faithful build :=
  fun kept hkept => hshelf kept (List.mem_filter.1 hkept |>.1)

theorem Faithful.put (hshelf : shelf.Faithful build) {kept : Kept κ α}
    (hbuild : build kept.key = .ok kept.scheme) : (shelf.put kept).Faithful build := by
  unfold Shelf.put
  split
  · exact hshelf
  · intro other hother
    rcases List.mem_cons.1 hother with rfl | hother
    · exact hbuild
    · exact hshelf other hother

theorem Faithful.find? (hshelf : shelf.Faithful build) {key : κ} {kept : Kept κ α}
    (hfind : shelf.find? key = some kept) : build key = .ok kept.scheme := by
  have hkey : kept.key = key := by simpa using List.find?_some hfind
  rw [← hkey]
  exact hshelf kept (List.mem_of_find?_eq_some hfind)

/-- A request to a faithful shelf is answered as if the scheme were built for it, and the shelf
stays faithful. -/
theorem Faithful.request (hshelf : shelf.Faithful build) (isLive : κ → Bool) (serial : Nat)
    (key : κ) :
    (shelf.request isLive serial key (build key)).1 = build key ∧
      (shelf.request isLive serial key (build key)).2.Faithful build := by
  unfold Shelf.request
  cases hfind : shelf.find? key with
  | some kept => exact ⟨(hshelf.find? hfind).symm, hshelf⟩
  | none =>
      cases hbuild : build key with
      | error fault => exact ⟨rfl, hshelf.retain isLive⟩
      | ok scheme => exact ⟨rfl, (hshelf.retain isLive).put hbuild⟩

end Shelf

/-- What each handle stands for. A handle is given out once, to one material, and never again. -/
abbrev KeyRing := KeyHandle → KeyMaterial

namespace KeyRing

/-- Whether a key is of the material that its handle stands for. -/
def Has (ring : KeyRing) (key : Key) : Prop :=
  key.material = ring key.handle

def key (ring : KeyRing) (handle : KeyHandle) : Key :=
  { handle, material := ring handle }

def signatureScheme (ring : KeyRing) (purpose : SignaturePurpose) :
    Except CryptoFault SignatureScheme :=
  (ring.key purpose.handle).signatureScheme purpose.algorithm purpose.forSigning

def keyScheme (ring : KeyRing) (purpose : KeyPurpose) : Except CryptoFault KeyScheme :=
  (ring.key purpose.handle).keyScheme purpose.algorithm

variable {ring : KeyRing} {key : Key}

/-- A scheme hangs on the handle and the material of a key, not on the hints beside them. -/
theorem Has.signatureScheme_eq (hkey : ring.Has key) (algorithm : SignatureAlgorithm)
    (forSigning : Bool) :
    key.signatureScheme algorithm forSigning =
      ring.signatureScheme ⟨key.handle, algorithm, forSigning⟩ := by
  obtain ⟨handle, keyId, thumbprint, material⟩ := key
  obtain rfl : material = ring handle := hkey
  rfl

theorem Has.keyScheme_eq (hkey : ring.Has key) (algorithm : KeyAlgorithm) :
    key.keyScheme algorithm = ring.keyScheme ⟨key.handle, algorithm⟩ := by
  obtain ⟨handle, keyId, thumbprint, material⟩ := key
  obtain rfl : material = ring handle := hkey
  rfl

end KeyRing

namespace SchemeCache

structure Faithful (ring : KeyRing) (cache : SchemeCache) : Prop where
  signatures : cache.signatures.Faithful ring.signatureScheme
  keySchemes : cache.keySchemes.Faithful ring.keyScheme
  ciphers : cache.ciphers.Faithful ContentCipher.ofAlgorithm

theorem faithful_empty (ring : KeyRing) : (∅ : SchemeCache).Faithful ring :=
  ⟨Shelf.faithful_empty, Shelf.faithful_empty, Shelf.faithful_empty⟩

variable {ring : KeyRing} {cache : SchemeCache} {key : Key} (isLive : KeyHandle → Bool)

theorem Faithful.signature (hcache : cache.Faithful ring) (hkey : ring.Has key) (name : String)
    (forSigning : Bool) :
    ((SchemeCache.signature isLive key name forSigning).run cache).1 =
        ((CryptoSuite.standard.signature key name forSigning).run ()).1 ∧
      ((SchemeCache.signature isLive key name forSigning).run cache).2.Faithful ring := by
  simp only [SchemeCache.signature, CryptoSuite.standard, StateT.run, hkey.signatureScheme_eq]
  cases SignatureAlgorithm.ofName name with
  | error fault => exact ⟨rfl, hcache⟩
  | ok algorithm =>
      obtain ⟨hanswer, hshelf⟩ := hcache.signatures.request (fun purpose => isLive purpose.handle)
        cache.requests ⟨key.handle, algorithm, forSigning⟩
      exact ⟨hanswer, hshelf, hcache.keySchemes, hcache.ciphers⟩

theorem Faithful.keyManagement (hcache : cache.Faithful ring) (hkey : ring.Has key)
    (name : String) :
    ((SchemeCache.keyManagement isLive key name).run cache).1 =
        ((CryptoSuite.standard.keyManagement key name).run ()).1 ∧
      ((SchemeCache.keyManagement isLive key name).run cache).2.Faithful ring := by
  simp only [SchemeCache.keyManagement, CryptoSuite.standard, StateT.run, hkey.keyScheme_eq]
  cases KeyAlgorithm.ofName name with
  | error fault => exact ⟨rfl, hcache⟩
  | ok algorithm =>
      obtain ⟨hanswer, hshelf⟩ := hcache.keySchemes.request (fun purpose => isLive purpose.handle)
        cache.requests ⟨key.handle, algorithm⟩
      exact ⟨hanswer, hcache.signatures, hshelf, hcache.ciphers⟩

theorem Faithful.content (hcache : cache.Faithful ring) (name : String) :
    ((SchemeCache.content name).run cache).1 = ((CryptoSuite.standard.content name).run ()).1 ∧
      ((SchemeCache.content name).run cache).2.Faithful ring := by
  simp only [SchemeCache.content, CryptoSuite.standard, StateT.run]
  cases ContentAlgorithm.ofName name with
  | error fault => exact ⟨rfl, hcache⟩
  | ok algorithm =>
      obtain ⟨hanswer, hshelf⟩ := hcache.ciphers.request (fun _ => true) cache.requests algorithm
      exact ⟨hanswer, hcache.signatures, hcache.keySchemes, hshelf⟩

theorem Faithful.release (hcache : cache.Faithful ring) (key : Key) :
    ((SchemeCache.release key).run cache).2.Faithful ring :=
  ⟨hcache.signatures.retain _, hcache.keySchemes.retain _, hcache.ciphers⟩

end SchemeCache

/-- A session with a faithful memory, beside any session that has none. -/
def Session.FaithfulBeside {ρ : Type} (ring : KeyRing) (left : Session SchemeCache ρ)
    (_ : Session Unit ρ) : Prop :=
  left.suite.Faithful ring

namespace CryptoSuite

variable {ρ : Type} (ring : KeyRing) (isLive : KeyHandle → Bool)

/-- Over a faithful cache the caching suite answers as the standard one does in any session. -/
theorem caching_agree_standard :
    CryptoSuite.Agree (@Session.FaithfulBeside ρ ring) (caching isLive) standard ring.Has where
  note _ hcache := hcache
  signature name forSigning hkey _ _ hcache := hcache.signature isLive hkey name forSigning
  keyManagement name hkey _ _ hcache := hcache.keyManagement isLive hkey name
  content name _ _ hcache := hcache.content name

variable {ring isLive} in
theorem agree_standard_of_caching {suite : CryptoSuite SchemeCache}
    (hsuite : suite = caching isLive) :
    CryptoSuite.Agree (@Session.FaithfulBeside ρ ring) suite standard ring.Has := by
  rw [hsuite]
  exact caching_agree_standard ring isLive

theorem caching_agree_self :
    CryptoSuite.Agree
      (Session.Alike fun session : Session SchemeCache ρ => session.suite.Faithful ring)
      (caching isLive) (caching isLive) ring.Has :=
  agree_self _ _ (fun _ hcache => hcache)
    (fun name forSigning hkey hcache => (hcache.signature isLive hkey name forSigning).2)
    (fun name hkey hcache => (hcache.keyManagement isLive hkey name).2)
    (fun name hcache => (hcache.content name).2)

end CryptoSuite

end SecurityToken
