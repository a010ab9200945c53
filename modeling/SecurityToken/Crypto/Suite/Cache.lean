import SecurityToken.Crypto.Suite.Standard

/-!
The standard suite with a memory: a scheme is built at the first request for it and kept as long as
its key lives. Each request that finds nothing kept first clears away what belongs to keys that have
gone.
-/

namespace SecurityToken

/-- A scheme that was built, with the number of the request that it was built for. -/
structure Kept (κ α : Type) where
  key : κ
  serial : Nat
  scheme : α

structure Shelf (κ α : Type) where
  entries : List (Kept κ α)
  nodup : (entries.map Kept.key).Nodup

namespace Shelf

variable {κ α : Type} [DecidableEq κ]

def empty : Shelf κ α := ⟨[], by simp⟩

def size (shelf : Shelf κ α) : Nat := shelf.entries.length

def keys (shelf : Shelf κ α) : List κ := shelf.entries.map Kept.key

def find? (shelf : Shelf κ α) (key : κ) : Option (Kept κ α) :=
  shelf.entries.find? fun kept => kept.key = key

def retain (shelf : Shelf κ α) (keep : κ → Bool) : Shelf κ α :=
  ⟨shelf.entries.filter fun kept => keep kept.key,
    List.Nodup.sublist (List.Sublist.map _ List.filter_sublist) shelf.nodup⟩

def put (shelf : Shelf κ α) (kept : Kept κ α) : Shelf κ α :=
  if h : kept.key ∈ shelf.keys then shelf
  else ⟨kept :: shelf.entries, by simpa using ⟨by simpa [keys] using h, shelf.nodup⟩⟩

/-- Answers with what is kept, or builds a scheme and keeps it. What fails to build is not kept. -/
def request (shelf : Shelf κ α) (isLive : κ → Bool) (serial : Nat) (key : κ)
    (build : Except CryptoFault α) : Except CryptoFault α × Shelf κ α :=
  match shelf.find? key with
  | some kept => (.ok kept.scheme, shelf)
  | none =>
      let live := shelf.retain isLive
      match build with
      | .ok scheme => (.ok scheme, live.put ⟨key, serial, scheme⟩)
      | .error fault => (.error fault, live)

end Shelf

structure SignaturePurpose where
  handle : KeyHandle
  algorithm : SignatureAlgorithm
  forSigning : Bool
  deriving DecidableEq

structure KeyPurpose where
  handle : KeyHandle
  algorithm : KeyAlgorithm
  deriving DecidableEq

/-- Everything that is kept, and the number of requests so far. -/
structure SchemeCache where
  signatures : Shelf SignaturePurpose SignatureScheme
  keySchemes : Shelf KeyPurpose KeyScheme
  ciphers : Shelf ContentAlgorithm ContentCipher
  requests : Nat

namespace SchemeCache

def empty : SchemeCache := ⟨.empty, .empty, .empty, 0⟩

instance : EmptyCollection SchemeCache := ⟨empty⟩

variable (isLive : KeyHandle → Bool)

def signature (key : Key) (name : String) (forSigning : Bool) :
    StateM SchemeCache (Except CryptoFault SignatureScheme) := fun cache =>
  match SignatureAlgorithm.ofName name with
  | .error fault => (.error fault, cache)
  | .ok algorithm =>
      let (answer, shelf) := cache.signatures.request (fun purpose => isLive purpose.handle)
        cache.requests ⟨key.handle, algorithm, forSigning⟩
        (key.signatureScheme algorithm forSigning)
      (answer, { cache with signatures := shelf, requests := cache.requests + 1 })

def keyManagement (key : Key) (name : String) :
    StateM SchemeCache (Except CryptoFault KeyScheme) := fun cache =>
  match KeyAlgorithm.ofName name with
  | .error fault => (.error fault, cache)
  | .ok algorithm =>
      let (answer, shelf) := cache.keySchemes.request (fun purpose => isLive purpose.handle)
        cache.requests ⟨key.handle, algorithm⟩ (key.keyScheme algorithm)
      (answer, { cache with keySchemes := shelf, requests := cache.requests + 1 })

def content (name : String) : StateM SchemeCache (Except CryptoFault ContentCipher) := fun cache =>
  match ContentAlgorithm.ofName name with
  | .error fault => (.error fault, cache)
  | .ok algorithm =>
      let (answer, shelf) := cache.ciphers.request (fun _ => true) cache.requests algorithm
        (ContentCipher.ofAlgorithm algorithm)
      (answer, { cache with ciphers := shelf, requests := cache.requests + 1 })

def release (key : Key) : StateM SchemeCache Unit := fun cache =>
  ((), { cache with
    signatures := cache.signatures.retain fun purpose => purpose.handle != key.handle
    keySchemes := cache.keySchemes.retain fun purpose => purpose.handle != key.handle })

end SchemeCache

/-- The standard suite with a memory, given which keys are alive. -/
def CryptoSuite.caching (isLive : KeyHandle → Bool) : CryptoSuite SchemeCache where
  signature := SchemeCache.signature isLive
  keyManagement := SchemeCache.keyManagement isLive
  content := SchemeCache.content
  release := SchemeCache.release

end SecurityToken
