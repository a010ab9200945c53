import SecurityToken.Proofs.Suite.Cache
import Mathlib.Logic.Function.Basic

/-!
# A memory over the lives of keys

A holder of keys asks one suite with a memory for schemes, while its keys are made, copied, given
other hints, made public and dropped. A handle is given out once, so whatever happens to the keys a
handle stands for one material, and the memory stays faithful to that. It follows that no request is
answered otherwise than by a suite that was never asked before. What is kept beyond that is kept for
keys that live: a request that finds nothing clears away the rest, and a release takes away what
belongs to one key.
-/

namespace SecurityToken

/-! ### Requests -/

inductive Request where
  | signature (key : Key) (name : String) (forSigning : Bool)
  | keyScheme (key : Key) (name : String)
  | cipher (name : String)

inductive Served where
  | signature (scheme : SignatureScheme)
  | keyScheme (scheme : KeyScheme)
  | cipher (cipher : ContentCipher)

namespace Request

def keys : Request → List Key
  | signature key _ _ | keyScheme key _ => [key]
  | cipher _ => []

end Request

def CryptoSuite.serve {σ : Type} (suite : CryptoSuite σ) :
    Request → StateM σ (Except CryptoFault Served)
  | .signature key name forSigning => Except.map .signature <$> suite.signature key name forSigning
  | .keyScheme key name => Except.map .keyScheme <$> suite.keyManagement key name
  | .cipher name => Except.map .cipher <$> suite.content name

namespace SchemeCache

/-- Whether a request is for a scheme that is not kept. A name that no algorithm has is refused
before anything is looked up. -/
def Misses (cache : SchemeCache) : Request → Prop
  | .signature key name forSigning => ∃ algorithm, SignatureAlgorithm.ofName name = .ok algorithm ∧
      cache.signatures.find? ⟨key.handle, algorithm, forSigning⟩ = none
  | .keyScheme key name => ∃ algorithm, KeyAlgorithm.ofName name = .ok algorithm ∧
      cache.keySchemes.find? ⟨key.handle, algorithm⟩ = none
  | .cipher name => ∃ algorithm, ContentAlgorithm.ofName name = .ok algorithm ∧
      cache.ciphers.find? algorithm = none

/-- The handles of the keys for which something is kept. -/
def handles (cache : SchemeCache) : List KeyHandle :=
  cache.signatures.keys.map SignaturePurpose.handle ++ cache.keySchemes.keys.map KeyPurpose.handle

/-- The handles of the keys for which something is kept on the shelf that a request goes to. -/
def handlesFor (cache : SchemeCache) : Request → List KeyHandle
  | .signature _ _ _ => cache.signatures.keys.map SignaturePurpose.handle
  | .keyScheme _ _ => cache.keySchemes.keys.map KeyPurpose.handle
  | .cipher _ => []

/-- Whether nothing is kept in one cache that is not kept in another. -/
structure Within (inner outer : SchemeCache) : Prop where
  signatures : inner.signatures.entries.Sublist outer.signatures.entries
  keySchemes : inner.keySchemes.entries.Sublist outer.keySchemes.entries
  ciphers : inner.ciphers.entries.Sublist outer.ciphers.entries

end SchemeCache

/-! ### The lives of keys -/

/-- A party with keys and a suite with a memory. Each copy of a key that lives is listed. -/
structure Holder where
  keys : List Key
  /-- The next handle to be given out. -/
  fresh : KeyHandle
  cache : SchemeCache

inductive KeyEvent where
  | create (material : KeyMaterial)
  | copy (key : Key)
  | relabel (key : Key) (keyId thumbprint : Option String)
  | publish (key : Key)
  | drop (key : Key)
  | ask (request : Request)
  | release (key : Key)

def KeyEvent.keys : KeyEvent → List Key
  | create _ => []
  | copy key | relabel key _ _ | publish key | drop key | release key => [key]
  | ask request => request.keys

namespace Holder

def empty : Holder := ⟨[], 0, ∅⟩

def isAlive (holder : Holder) (handle : KeyHandle) : Bool :=
  holder.keys.any fun key => key.handle == handle

def suite (holder : Holder) : CryptoSuite SchemeCache :=
  .caching holder.isAlive

def ask (holder : Holder) (request : Request) : Except CryptoFault Served × SchemeCache :=
  (holder.suite.serve request).run holder.cache

def released (holder : Holder) (key : Key) : SchemeCache :=
  ((holder.suite.release key).run holder.cache).2

def act (holder : Holder) : KeyEvent → Holder
  | .create material =>
      { holder with
        keys := { handle := holder.fresh, material } :: holder.keys
        fresh := holder.fresh + 1 }
  | .copy key => { holder with keys := key :: holder.keys }
  | .relabel key keyId thumbprint =>
      { holder with keys := { key with keyId, thumbprint } :: holder.keys.erase key }
  | .publish key =>
      { holder with
        keys := key.toPublic holder.fresh :: holder.keys
        fresh := if key.material.isSecret then holder.fresh else holder.fresh + 1 }
  | .drop key => { holder with keys := holder.keys.erase key }
  | .ask request => { holder with cache := (holder.ask request).2 }
  | .release key => { holder with cache := holder.released key }

/-- What an event makes of a holder. Nothing happens with keys that the holder does not have. -/
def step (holder : Holder) (event : KeyEvent) : Holder :=
  if ∀ key ∈ event.keys, key ∈ holder.keys then holder.act event else holder

def after (holder : Holder) (events : List KeyEvent) : Holder :=
  events.foldl step holder

end Holder

/-! ### What a request does to the shelves -/

namespace Shelf

variable {κ α : Type} [DecidableEq κ] {shelf : Shelf κ α} {isLive : κ → Bool} {serial : Nat}
  {key : κ} {build : Except CryptoFault α}

theorem mem_put {kept other : Kept κ α} (hother : other ∈ (shelf.put kept).entries) :
    other = kept ∨ other ∈ shelf.entries := by
  unfold put at hother
  split at hother
  · exact .inr hother
  · exact List.mem_cons.1 hother

theorem request_of_error {fault : CryptoFault}
    (hfault : (shelf.request isLive serial key build).1 = .error fault) :
    (shelf.request isLive serial key build).2.entries.Sublist shelf.entries := by
  unfold request at hfault ⊢
  cases hfind : shelf.find? key with
  | some kept => simp only [hfind, reduceCtorEq] at hfault
  | none =>
      simp only [hfind] at hfault ⊢
      cases build with
      | error cause => exact List.filter_sublist
      | ok scheme => simp only [reduceCtorEq] at hfault

theorem mem_request {kept : Kept κ α}
    (hkept : kept ∈ (shelf.request isLive serial key build).2.entries) :
    kept.key = key ∨
      kept ∈ shelf.entries ∧ (shelf.find? key = none → isLive kept.key = true) := by
  unfold request at hkept
  cases hfind : shelf.find? key with
  | some found =>
      rw [hfind] at hkept
      exact .inr ⟨hkept, fun hnone => nomatch hnone⟩
  | none =>
      rw [hfind] at hkept
      have hretained : ∀ {other}, other ∈ (shelf.retain isLive).entries →
          other ∈ shelf.entries ∧ isLive other.key = true := List.mem_filter.1
      cases build with
      | error cause => exact .inr ((hretained hkept).imp_right fun hlive _ => hlive)
      | ok scheme =>
          rcases mem_put hkept with rfl | hkept
          · exact .inl rfl
          · exact .inr ((hretained hkept).imp_right fun hlive _ => hlive)

/-- A request keeps nothing new but what it is for, and one that finds nothing leaves nothing else
that is not alive. -/
theorem handle_of_mem_request {isLive : KeyHandle → Bool} (handleOf : κ → KeyHandle)
    {handle : KeyHandle}
    (hhandle : handle ∈ (shelf.request (fun purpose => isLive (handleOf purpose)) serial key
      build).2.keys.map handleOf) :
    handleOf key = handle ∨
      handle ∈ shelf.keys.map handleOf ∧ (shelf.find? key = none → isLive handle = true) := by
  obtain ⟨purpose, hpurpose, rfl⟩ := List.mem_map.1 hhandle
  obtain ⟨kept, hkept, rfl⟩ := List.mem_map.1 hpurpose
  rcases mem_request hkept with hkey | ⟨hbefore, hlive⟩
  · exact .inl (congrArg handleOf hkey.symm)
  · exact .inr ⟨List.mem_map_of_mem (List.mem_map_of_mem hbefore), hlive⟩

end Shelf

namespace SchemeCache

variable {cache : SchemeCache} {ring : KeyRing} {isLive : KeyHandle → Bool} {request : Request}

theorem Faithful.serve (hcache : cache.Faithful ring) (isLive : KeyHandle → Bool)
    (hkeys : ∀ key ∈ request.keys, ring.Has key) :
    (((CryptoSuite.caching isLive).serve request).run cache).1 =
        ((CryptoSuite.standard.serve request).run ()).1 ∧
      (((CryptoSuite.caching isLive).serve request).run cache).2.Faithful ring := by
  cases request with
  | signature key name forSigning =>
      obtain ⟨hanswer, hafter⟩ :=
        hcache.signature isLive (hkeys key List.mem_cons_self) name forSigning
      exact ⟨congrArg (Except.map Served.signature) hanswer, hafter⟩
  | keyScheme key name =>
      obtain ⟨hanswer, hafter⟩ := hcache.keyManagement isLive (hkeys key List.mem_cons_self) name
      exact ⟨congrArg (Except.map Served.keyScheme) hanswer, hafter⟩
  | cipher name =>
      obtain ⟨hanswer, hafter⟩ := hcache.content name
      exact ⟨congrArg (Except.map Served.cipher) hanswer, hafter⟩

theorem map_eq_error {α β : Type} {change : α → β} {answer : Except CryptoFault α}
    {fault : CryptoFault} : answer.map change = .error fault ↔ answer = .error fault := by
  cases answer <;> simp [Except.map]

theorem Within.refl (cache : SchemeCache) : cache.Within cache :=
  ⟨.refl _, .refl _, .refl _⟩

theorem within_of_error {fault : CryptoFault}
    (hfault : (((CryptoSuite.caching isLive).serve request).run cache).1 = .error fault) :
    (((CryptoSuite.caching isLive).serve request).run cache).2.Within cache := by
  cases request with
  | signature key name forSigning =>
      change (signature isLive key name forSigning cache).1.map Served.signature = _ at hfault
      change (signature isLive key name forSigning cache).2.Within cache
      rw [map_eq_error] at hfault
      unfold signature at hfault ⊢
      cases hname : SignatureAlgorithm.ofName name with
      | error cause => exact .refl cache
      | ok algorithm =>
          rw [hname] at hfault
          exact ⟨Shelf.request_of_error hfault, .refl _, .refl _⟩
  | keyScheme key name =>
      change (keyManagement isLive key name cache).1.map Served.keyScheme = _ at hfault
      change (keyManagement isLive key name cache).2.Within cache
      rw [map_eq_error] at hfault
      unfold keyManagement at hfault ⊢
      cases hname : KeyAlgorithm.ofName name with
      | error cause => exact .refl cache
      | ok algorithm =>
          rw [hname] at hfault
          exact ⟨.refl _, Shelf.request_of_error hfault, .refl _⟩
  | cipher name =>
      change (content name cache).1.map Served.cipher = _ at hfault
      change (content name cache).2.Within cache
      rw [map_eq_error] at hfault
      unfold content at hfault ⊢
      cases hname : ContentAlgorithm.ofName name with
      | error cause => exact .refl cache
      | ok algorithm =>
          rw [hname] at hfault
          exact ⟨.refl _, .refl _, Shelf.request_of_error hfault⟩

/-- What is kept after a request was kept before, or is for a key of the request; and on a shelf
where nothing was found all else is alive. -/
theorem handle_of_mem_handlesFor {handle : KeyHandle}
    (hhandle : handle ∈
      (((CryptoSuite.caching isLive).serve request).run cache).2.handlesFor request) :
    (∃ key ∈ request.keys, key.handle = handle) ∨
      handle ∈ cache.handlesFor request ∧ (cache.Misses request → isLive handle = true) := by
  cases request with
  | signature key name forSigning =>
      change handle ∈ (signature isLive key name forSigning cache).2.signatures.keys.map
        SignaturePurpose.handle at hhandle
      unfold signature at hhandle
      cases hname : SignatureAlgorithm.ofName name with
      | error cause =>
          rw [hname] at hhandle
          refine .inr ⟨hhandle, ?_⟩
          rintro ⟨algorithm, halgorithm, _⟩
          cases hname.symm.trans halgorithm
      | ok algorithm =>
          rw [hname] at hhandle
          rcases Shelf.handle_of_mem_request SignaturePurpose.handle hhandle with
            hkey | ⟨hbefore, hlive⟩
          · exact .inl ⟨key, List.mem_cons_self, hkey⟩
          · refine .inr ⟨hbefore, ?_⟩
            rintro ⟨found, hfound, hmiss⟩
            obtain rfl := Except.ok.inj (hname.symm.trans hfound)
            exact hlive hmiss
  | keyScheme key name =>
      change handle ∈ (keyManagement isLive key name cache).2.keySchemes.keys.map
        KeyPurpose.handle at hhandle
      unfold keyManagement at hhandle
      cases hname : KeyAlgorithm.ofName name with
      | error cause =>
          rw [hname] at hhandle
          refine .inr ⟨hhandle, ?_⟩
          rintro ⟨algorithm, halgorithm, _⟩
          cases hname.symm.trans halgorithm
      | ok algorithm =>
          rw [hname] at hhandle
          rcases Shelf.handle_of_mem_request KeyPurpose.handle hhandle with hkey | ⟨hbefore, hlive⟩
          · exact .inl ⟨key, List.mem_cons_self, hkey⟩
          · refine .inr ⟨hbefore, ?_⟩
            rintro ⟨found, hfound, hmiss⟩
            obtain rfl := Except.ok.inj (hname.symm.trans hfound)
            exact hlive hmiss
  | cipher name => exact absurd hhandle List.not_mem_nil

theorem signatures_serve
    (hother : ∀ key name forSigning, request ≠ .signature key name forSigning) :
    (((CryptoSuite.caching isLive).serve request).run cache).2.signatures = cache.signatures := by
  cases request with
  | signature key name forSigning => exact absurd rfl (hother key name forSigning)
  | keyScheme key name =>
      change (keyManagement isLive key name cache).2.signatures = cache.signatures
      unfold keyManagement
      cases KeyAlgorithm.ofName name <;> rfl
  | cipher name =>
      change (content name cache).2.signatures = cache.signatures
      unfold content
      cases ContentAlgorithm.ofName name <;> rfl

theorem keySchemes_serve (hother : ∀ key name, request ≠ .keyScheme key name) :
    (((CryptoSuite.caching isLive).serve request).run cache).2.keySchemes = cache.keySchemes := by
  cases request with
  | signature key name forSigning =>
      change (signature isLive key name forSigning cache).2.keySchemes = cache.keySchemes
      unfold signature
      cases SignatureAlgorithm.ofName name <;> rfl
  | keyScheme key name => exact absurd rfl (hother key name)
  | cipher name =>
      change (content name cache).2.keySchemes = cache.keySchemes
      unfold content
      cases ContentAlgorithm.ofName name <;> rfl

/-- Whatever a request goes to, it adds nothing but for its own key. -/
theorem mem_handles_serve {handle : KeyHandle}
    (hhandle : handle ∈ (((CryptoSuite.caching isLive).serve request).run cache).2.handles) :
    (∃ key ∈ request.keys, key.handle = handle) ∨ handle ∈ cache.handles := by
  rcases List.mem_append.1 hhandle with hhandle | hhandle
  · have hsignatures : (∃ key ∈ request.keys, key.handle = handle) ∨
        handle ∈ cache.signatures.keys.map SignaturePurpose.handle := by
      cases request with
      | signature key name forSigning =>
          have hown :=
            @handle_of_mem_handlesFor cache isLive (.signature key name forSigning) handle hhandle
          exact hown.imp_right And.left
      | keyScheme key name =>
          rw [signatures_serve (by simp)] at hhandle
          exact .inr hhandle
      | cipher name =>
          rw [signatures_serve (by simp)] at hhandle
          exact .inr hhandle
    exact hsignatures.imp_right (List.mem_append_left _)
  · have hkeySchemes : (∃ key ∈ request.keys, key.handle = handle) ∨
        handle ∈ cache.keySchemes.keys.map KeyPurpose.handle := by
      cases request with
      | keyScheme key name =>
          have hown := @handle_of_mem_handlesFor cache isLive (.keyScheme key name) handle hhandle
          exact hown.imp_right And.left
      | signature key name forSigning =>
          rw [keySchemes_serve (by simp)] at hhandle
          exact .inr hhandle
      | cipher name =>
          rw [keySchemes_serve (by simp)] at hhandle
          exact .inr hhandle
    exact hkeySchemes.imp_right (List.mem_append_right _)

theorem mem_handles_release {key : Key} {handle : KeyHandle}
    (hhandle : handle ∈ ((release key).run cache).2.handles) : handle ∈ cache.handles := by
  have hretained : ∀ {κ α : Type} {shelf : Shelf κ α} {keep : κ → Bool} {handleOf : κ → KeyHandle},
      handle ∈ (shelf.retain keep).keys.map handleOf → handle ∈ shelf.keys.map handleOf :=
    fun hmem => ((List.filter_sublist.map _).map _).subset hmem
  rcases List.mem_append.1 hhandle with hhandle | hhandle
  · exact List.mem_append_left _ (hretained hhandle)
  · exact List.mem_append_right _ (hretained hhandle)

/-- A memory is faithful to any ring that has the same material under the handles it keeps. -/
theorem Faithful.congr (hcache : cache.Faithful ring) {ring' : KeyRing}
    (hring : ∀ handle ∈ cache.handles, ring' handle = ring handle) : cache.Faithful ring' where
  signatures kept hkept := by
    have hhandle : kept.key.handle ∈ cache.handles :=
      List.mem_append_left _ (List.mem_map_of_mem (List.mem_map_of_mem hkept))
    have hbuild := hcache.signatures kept hkept
    unfold KeyRing.signatureScheme KeyRing.key at hbuild ⊢
    rwa [hring _ hhandle]
  keySchemes kept hkept := by
    have hhandle : kept.key.handle ∈ cache.handles :=
      List.mem_append_right _ (List.mem_map_of_mem (List.mem_map_of_mem hkept))
    have hbuild := hcache.keySchemes kept hkept
    unfold KeyRing.keyScheme KeyRing.key at hbuild ⊢
    rwa [hring _ hhandle]
  ciphers := hcache.ciphers

end SchemeCache

/-! ### One material for each handle -/

namespace Holder

/-- What holds of a holder whatever was done with its keys: each handle that was given out stands
for one material, and the memory has nothing under any other handle. -/
structure Sound (ring : KeyRing) (holder : Holder) : Prop where
  has : ∀ key ∈ holder.keys, ring.Has key
  issued : ∀ key ∈ holder.keys, key.handle < holder.fresh
  faithful : holder.cache.Faithful ring
  kept : ∀ handle ∈ holder.cache.handles, handle < holder.fresh

variable {ring : KeyRing} {holder : Holder} {key : Key} {request : Request}

theorem sound_empty (ring : KeyRing) : Sound ring empty where
  has _ hkey := absurd hkey List.not_mem_nil
  issued _ hkey := absurd hkey List.not_mem_nil
  faithful := SchemeCache.faithful_empty ring
  kept _ hhandle := absurd hhandle List.not_mem_nil

namespace Sound

/-- A handle that was never given out can come to stand for any material. -/
theorem give (hsound : Sound ring holder) (hhandle : key.handle = holder.fresh) :
    Sound (Function.update ring holder.fresh key.material)
      { holder with keys := key :: holder.keys, fresh := holder.fresh + 1 } where
  has other hother := by
    rcases List.mem_cons.1 hother with rfl | hother
    · rw [KeyRing.Has, hhandle, Function.update_self]
    · rw [KeyRing.Has, Function.update_of_ne (Nat.ne_of_lt (hsound.issued other hother))]
      exact hsound.has other hother
  issued other hother := by
    rcases List.mem_cons.1 hother with rfl | hother
    · exact hhandle ▸ Nat.lt_succ_self _
    · exact Nat.lt_succ_of_lt (hsound.issued other hother)
  faithful := hsound.faithful.congr fun handle hhandle =>
    Function.update_of_ne (Nat.ne_of_lt (hsound.kept handle hhandle)) _ _
  kept handle hhandle := Nat.lt_succ_of_lt (hsound.kept handle hhandle)

theorem withKeys (hsound : Sound ring holder) {keys : List Key}
    (hkeys : ∀ key ∈ keys, ring.Has key ∧ key.handle < holder.fresh) :
    Sound ring { holder with keys } where
  has key hkey := (hkeys key hkey).1
  issued key hkey := (hkeys key hkey).2
  faithful := hsound.faithful
  kept := hsound.kept

theorem add (hsound : Sound ring holder) {rest : List Key} (hrest : rest ⊆ holder.keys)
    (hkey : ring.Has key ∧ key.handle < holder.fresh) :
    Sound ring { holder with keys := key :: rest } :=
  hsound.withKeys fun other hother => by
    rcases List.mem_cons.1 hother with rfl | hother
    · exact hkey
    · exact ⟨hsound.has other (hrest hother), hsound.issued other (hrest hother)⟩

theorem ask (hsound : Sound ring holder) (hkeys : ∀ key ∈ request.keys, key ∈ holder.keys) :
    Sound ring { holder with cache := (holder.ask request).2 } where
  has := hsound.has
  issued := hsound.issued
  faithful :=
    (hsound.faithful.serve holder.isAlive fun key hkey => hsound.has key (hkeys key hkey)).2
  kept handle hhandle := by
    rcases SchemeCache.mem_handles_serve hhandle with ⟨key, hkey, rfl⟩ | hbefore
    · exact hsound.issued key (hkeys key hkey)
    · exact hsound.kept handle hbefore

theorem release (hsound : Sound ring holder) (key : Key) :
    Sound ring { holder with cache := holder.released key } where
  has := hsound.has
  issued := hsound.issued
  faithful := hsound.faithful.release key
  kept handle hhandle :=
    hsound.kept handle (SchemeCache.mem_handles_release hhandle)

theorem act (hsound : Sound ring holder) {event : KeyEvent}
    (hkeys : ∀ key ∈ event.keys, key ∈ holder.keys) : ∃ ring, Sound ring (holder.act event) := by
  have hown : ∀ key ∈ holder.keys, ring.Has key ∧ key.handle < holder.fresh :=
    fun key hkey => ⟨hsound.has key hkey, hsound.issued key hkey⟩
  cases event with
  | create material => exact ⟨_, hsound.give rfl⟩
  | copy key =>
      exact ⟨ring, hsound.add (List.Subset.refl _) (hown key (hkeys key List.mem_cons_self))⟩
  | relabel key keyId thumbprint =>
      exact ⟨ring, hsound.add List.erase_subset (hown key (hkeys key List.mem_cons_self))⟩
  | publish key =>
      unfold Holder.act Key.toPublic
      by_cases hsecret : key.material.isSecret = true
      · simp only [if_pos hsecret]
        exact ⟨ring, hsound.add (List.Subset.refl _) (hown key (hkeys key List.mem_cons_self))⟩
      · simp only [if_neg hsecret]
        exact ⟨_, hsound.give rfl⟩
  | drop key =>
      exact ⟨ring, hsound.withKeys fun other hother => hown other (List.erase_subset hother)⟩
  | ask request => exact ⟨ring, hsound.ask hkeys⟩
  | release key => exact ⟨ring, hsound.release key⟩

theorem step (hsound : Sound ring holder) (event : KeyEvent) :
    ∃ ring, Sound ring (holder.step event) := by
  unfold Holder.step
  split
  next hkeys => exact hsound.act hkeys
  next => exact ⟨ring, hsound⟩

end Sound

/-- By induction on the events, with the ring that the handles given out so far make. -/
theorem sound_after (hsound : Sound ring holder) (events : List KeyEvent) :
    ∃ ring, Sound ring (holder.after events) := by
  induction events generalizing ring holder with
  | nil => exact ⟨ring, hsound⟩
  | cons event rest ih =>
      obtain ⟨ring', hstep⟩ := hsound.step event
      exact ih hstep

/-! ### What a request comes to -/

/-- Whether the memory shows in nothing but what is kept: the answer to a request is the one of a
suite that was never asked before, a request that fails keeps nothing new, and one that finds
nothing leaves on its shelf only what belongs to keys that live. -/
structure Transparent (holder : Holder) (request : Request) : Prop where
  answer : ∀ isLive : KeyHandle → Bool,
    (holder.ask request).1 = (((CryptoSuite.caching isLive).serve request).run ∅).1
  failure : ∀ fault, (holder.ask request).1 = .error fault →
    (holder.ask request).2.Within holder.cache
  miss : holder.cache.Misses request →
    ∀ handle ∈ (holder.ask request).2.handlesFor request, ∃ key ∈ holder.keys, key.handle = handle

/-- Whether a release takes away all that is kept for a key, and nothing else. -/
structure Forgets (holder : Holder) (key : Key) : Prop where
  signatures : ∀ kept, kept ∈ (holder.released key).signatures.entries ↔
    kept ∈ holder.cache.signatures.entries ∧ kept.key.handle ≠ key.handle
  keySchemes : ∀ kept, kept ∈ (holder.released key).keySchemes.entries ↔
    kept ∈ holder.cache.keySchemes.entries ∧ kept.key.handle ≠ key.handle
  ciphers : (holder.released key).ciphers = holder.cache.ciphers

theorem Sound.transparent (hsound : Sound ring holder)
    (hkeys : ∀ key ∈ request.keys, key ∈ holder.keys) : holder.Transparent request where
  answer isLive := by
    have hhas : ∀ key ∈ request.keys, ring.Has key :=
      fun key hkey => hsound.has key (hkeys key hkey)
    exact (hsound.faithful.serve holder.isAlive hhas).1.trans
      ((SchemeCache.faithful_empty ring).serve isLive hhas).1.symm
  failure _ hfault := SchemeCache.within_of_error hfault
  miss hmiss handle hhandle := by
    rcases SchemeCache.handle_of_mem_handlesFor hhandle with ⟨key, hkey, rfl⟩ | ⟨_, hlive⟩
    · exact ⟨key, hkeys key hkey, rfl⟩
    · simpa [isAlive] using hlive hmiss

theorem forgets (holder : Holder) (key : Key) : holder.Forgets key where
  signatures kept := by
    change kept ∈ holder.cache.signatures.entries.filter _ ↔ _
    simp
  keySchemes kept := by
    change kept ∈ holder.cache.keySchemes.entries.filter _ ↔ _
    simp
  ciphers := rfl

/-- Whatever was done before with the keys of a holder, its memory shows in no answer; no scheme is
kept twice for one purpose, and a release takes away what belongs to its key alone. -/
theorem transparent_after (events : List KeyEvent) :
    (∀ request, (∀ key ∈ request.keys, key ∈ (empty.after events).keys) →
      (empty.after events).Transparent request) ∧
    (∀ key, (empty.after events).Forgets key) ∧
    (empty.after events).cache.signatures.keys.Nodup ∧
    (empty.after events).cache.keySchemes.keys.Nodup := by
  obtain ⟨ring, hsound⟩ := sound_after (sound_empty fun _ => .secret []) events
  exact ⟨fun request hkeys => hsound.transparent hkeys, forgets _,
    (empty.after events).cache.signatures.nodup, (empty.after events).cache.keySchemes.nodup⟩

/-! ### A key that is given another id after it has signed, beside one that is gone -/

def signer : Key := { handle := 0, material := .secret (List.replicate 16 7) }

def relabeled : Key := { signer with keyId := some "second" }

def wrapper : Key := { handle := 1, material := .secret (List.replicate 16 9) }

def sampleEvents : List KeyEvent :=
  [.create signer.material, .ask (.signature signer "HS256" true), .create wrapper.material,
    .ask (.keyScheme wrapper "A128KW"), .relabel signer (some "second") none, .drop wrapper,
    .ask (.signature relabeled "HS512" false)]

theorem transparent_after_sampleEvents :
    relabeled ∈ (empty.after sampleEvents).keys ∧
    (empty.after sampleEvents).Transparent (.signature relabeled "HS256" true) ∧
    (empty.after sampleEvents).Forgets relabeled ∧
    (empty.after sampleEvents).cache.signatures.keys.Nodup ∧
    (empty.after sampleEvents).cache.keySchemes.keys.Nodup := by
  have hkeys : relabeled ∈ (empty.after sampleEvents).keys := by decide +kernel
  obtain ⟨htransparent, hforgets, hsignatures, hkeySchemes⟩ := transparent_after sampleEvents
  refine ⟨hkeys, htransparent _ ?_, hforgets relabeled, hsignatures, hkeySchemes⟩
  intro key hkey
  obtain rfl := List.mem_singleton.1 hkey
  exact hkeys

end Holder

end SecurityToken
