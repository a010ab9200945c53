import SecurityToken.Crypto.KeyManagement
import SecurityToken.Proofs.Crypto.Digest

/-!
# The wrapping of keys is one to one

Each pass over the half blocks undoes, and is undone by, its inverse, and so do all six in the
opposite order. A wrapping that unwraps is therefore the wrapping of what comes out: the check value
that has to come out is the one that went in. The lengths that are let through decide the rest, for a
wrapping has one half block more than its key.
-/

namespace SecurityToken

namespace KeyWrap

theorem Half.length_flatMap_bytes (halves : List Half) :
    (halves.flatMap bytes).length = halves.length * 8 :=
  @Bytes.length_flatMap _ bytes 8 (fun _ => rfl) halves

theorem exists_halves {bytes : Bytes} (hwhole : bytes.length % 8 = 0) :
    ∃ halves : List Half, halves.flatMap Half.bytes = bytes ∧ halves.length * 8 = bytes.length := by
  have hsplit := Half.flatMap_bytes_split bytes hwhole
  exact ⟨Half.split bytes, hsplit, by rw [← Half.length_flatMap_bytes, hsplit]⟩

theorem fits_iff {key : Bytes} : fits key = true ↔ key.length % 8 = 0 ∧ 16 ≤ key.length := by
  simp [fits, and_comm]

variable (cipher : BlockCipher)

/-! ### Passes -/

theorem length_pass (number : Nat) (check : Half) (halves : List Half) :
    (pass cipher number check halves).2.length = halves.length := by
  induction halves generalizing number check with
  | nil => rfl
  | cons half rest ih => simp only [pass, List.length_cons, ih]

/-- Passes in order, each with the number that its steps start from. -/
def passes (start : Nat → Nat) (indices : List Nat) (state : Half × List Half) :
    Half × List Half :=
  indices.foldl (fun state index => pass cipher (start index) state.1 state.2) state

/-- The inverse passes, the last one first. -/
def unpasses (start : Nat → Nat) (indices : List Nat) (state : Half × List Half) :
    Half × List Half :=
  indices.foldr (fun index state => unpass cipher (start index) state.1 state.2) state

variable (start : Nat → Nat) (indices : List Nat) (state : Half × List Half)

theorem unpasses_passes : unpasses cipher start indices (passes cipher start indices state) =
    state := by
  unfold unpasses passes
  induction indices generalizing state with
  | nil => rfl
  | cons index rest ih => rw [List.foldl_cons, List.foldr_cons, ih, unpass_pass]

theorem passes_unpasses : passes cipher start indices (unpasses cipher start indices state) =
    state := by
  unfold unpasses passes
  induction indices with
  | nil => rfl
  | cons index rest ih => rw [List.foldr_cons, List.foldl_cons, pass_unpass, ih]

theorem length_passes : (passes cipher start indices state).2.length = state.2.length := by
  unfold passes
  induction indices generalizing state with
  | nil => rfl
  | cons index rest ih => rw [List.foldl_cons, ih, length_pass]

theorem length_unpasses : (unpasses cipher start indices state).2.length = state.2.length := by
  have hlength := length_passes cipher start indices (unpasses cipher start indices state)
  rw [passes_unpasses] at hlength
  exact hlength.symm

/-! ### Keys -/

/-- The six passes over so many half blocks, with their steps numbered through. -/
def sealing (count : Nat) : Half × List Half → Half × List Half :=
  passes cipher (fun index => count * index + 1) (List.range 6)

def opening (count : Nat) : Half × List Half → Half × List Half :=
  unpasses cipher (fun index => count * index + 1) (List.range 6)

theorem opening_sealing (count : Nat) (state : Half × List Half) :
    opening cipher count (sealing cipher count state) = state :=
  unpasses_passes cipher _ _ state

theorem sealing_opening (count : Nat) (state : Half × List Half) :
    sealing cipher count (opening cipher count state) = state :=
  passes_unpasses cipher _ _ state

theorem wrap_flatMap (halves : List Half) :
    wrap cipher (halves.flatMap Half.bytes) =
      ((sealing cipher halves.length (initial, halves)).1 ::
        (sealing cipher halves.length (initial, halves)).2).flatMap Half.bytes := by
  unfold wrap
  rw [Half.split_flatMap_bytes]
  rfl

theorem unwrap?_flatMap {state : Half × List Half} (hlong : 2 ≤ state.2.length) :
    unwrap? cipher ((state.1 :: state.2).flatMap Half.bytes) =
      if (opening cipher state.2.length state).1 = initial then
        some ((opening cipher state.2.length state).2.flatMap Half.bytes)
      else none := by
  have hlength := Half.length_flatMap_bytes (state.1 :: state.2)
  rw [List.length_cons] at hlength
  unfold unwrap?
  rw [if_pos (by omega), Half.split_flatMap_bytes]
  rfl

variable {cipher} {key wrapped : Bytes}

theorem length_wrap (hfits : fits key = true) :
    (wrap cipher key).length = key.length + 8 := by
  obtain ⟨halves, rfl, hlength⟩ := exists_halves (fits_iff.1 hfits).1
  have hcount : (sealing cipher halves.length (initial, halves)).2.length = halves.length :=
    length_passes cipher _ _ _
  rw [wrap_flatMap, Half.length_flatMap_bytes, List.length_cons, hcount, Nat.succ_mul, hlength]

theorem unwrap?_wrap (hfits : fits key = true) : unwrap? cipher (wrap cipher key) = some key := by
  obtain ⟨hwhole, hlong⟩ := fits_iff.1 hfits
  obtain ⟨halves, rfl, hlength⟩ := exists_halves hwhole
  have hcount : (sealing cipher halves.length (initial, halves)).2.length = halves.length :=
    length_passes cipher _ _ _
  rw [wrap_flatMap, unwrap?_flatMap cipher (by omega), hcount, opening_sealing, if_pos rfl]

/-- What unwraps was wrapped: the passes are done again over what came out. -/
theorem wrap_of_unwrap? (hunwrap : unwrap? cipher wrapped = some key) :
    fits key = true ∧ wrap cipher key = wrapped := by
  have hlengths : 24 ≤ wrapped.length ∧ wrapped.length % 8 = 0 := by
    unfold unwrap? at hunwrap
    split at hunwrap
    next hlengths => exact hlengths
    next => exact nomatch hunwrap
  obtain ⟨halves, rfl, hlength⟩ := exists_halves hlengths.2
  cases halves with
  | nil => exact nomatch hlengths.1
  | cons check halves =>
      rw [List.length_cons] at hlength
      rw [@unwrap?_flatMap cipher (check, halves) (show 2 ≤ halves.length by omega)] at hunwrap
      split at hunwrap
      next hcheck =>
        obtain rfl := Option.some.inj hunwrap
        generalize hopened : opening cipher halves.length (check, halves) = opened at hcheck
        have hcount : opened.2.length = halves.length :=
          hopened ▸ length_unpasses cipher _ _ (check, halves)
        have hstate : (initial, opened.2) = opened := Prod.ext hcheck.symm rfl
        refine ⟨fits_iff.2 ?_, ?_⟩
        · rw [Half.length_flatMap_bytes, hcount]
          omega
        · rw [wrap_flatMap, hcount, hstate, ← hopened, sealing_opening]
      next => exact nomatch hunwrap

theorem unwrap?_eq_some :
    unwrap? cipher wrapped = some key ↔ fits key = true ∧ wrap cipher key = wrapped := by
  constructor
  · exact wrap_of_unwrap?
  · rintro ⟨hfits, rfl⟩
    exact unwrap?_wrap hfits

end KeyWrap

/-! ### Schemes -/

namespace KeyScheme

theorem exists_aes_iff {algorithm : KeyAlgorithm} {wrappingKey : Bytes} :
    (∃ scheme, aes algorithm wrappingKey = .ok scheme) ↔
      algorithm.wrappingKeySize? = some wrappingKey.length := by
  unfold aes
  cases algorithm.wrappingKeySize? with
  | none => simp
  | some size =>
      by_cases hsize : wrappingKey.length = size
      · simp [hsize]
      · simp [hsize, Ne.symm hsize]

theorem unwrapped_eq_ok {found : Option Bytes} {key : Bytes} :
    unwrapped found = .ok key ↔ found = some key := by
  cases found with
  | none => simp [unwrapped]
  | some other => simp [unwrapped]

theorem wrapAes_eq_ok {cipher : BlockCipher} {contentKey wrapped : Bytes} :
    wrapAes cipher contentKey = .ok wrapped ↔
      KeyWrap.fits contentKey = true ∧ KeyWrap.wrap cipher contentKey = wrapped := by
  unfold wrapAes
  by_cases hfits : KeyWrap.fits contentKey = true
  · simp [hfits]
  · simp [hfits]

theorem unwrapped_iff_wrapAes {cipher : BlockCipher} {contentKey wrapped : Bytes} :
    unwrapped (KeyWrap.unwrap? cipher wrapped) = .ok contentKey ↔
      wrapAes cipher contentKey = .ok wrapped := by
  rw [unwrapped_eq_ok, KeyWrap.unwrap?_eq_some, wrapAes_eq_ok]

/-- Whether the keys that a scheme wraps and the strings that it unwraps belong together one to
one. -/
structure Bijective (scheme : KeyScheme) : Prop where
  wraps : ∀ entropy contentKey, (∃ wrapped, scheme.wrap entropy contentKey = .ok wrapped) ↔
    contentKey.length % 8 = 0 ∧ 16 ≤ contentKey.length
  recovers : ∀ entropy contentKey wrapped, scheme.wrap entropy contentKey = .ok wrapped →
    wrapped.length = contentKey.length + 8 ∧ scheme.unwrap wrapped = .ok contentKey
  rewraps : ∀ entropy wrapped contentKey, scheme.unwrap wrapped = .ok contentKey →
    scheme.wrap entropy contentKey = .ok wrapped
  refuses : ∀ entropy wrapped, (∀ contentKey, scheme.wrap entropy contentKey ≠ .ok wrapped) →
    scheme.unwrap wrapped = .error .unwrapping

/-- AES wraps the keys of two half blocks or more one to one, under every wrapping key of the size
that the algorithm asks for. -/
theorem aes_bijective {algorithm : KeyAlgorithm} {wrappingKey : Bytes}
    (hsize : algorithm.wrappingKeySize? = some wrappingKey.length) :
    ∃ scheme, aes algorithm wrappingKey = .ok scheme ∧ scheme.Bijective := by
  have hscheme : aes algorithm wrappingKey = .ok {
      algorithm := algorithm.name
      wrap := fun _ => wrapAes (Aes.cipher wrappingKey)
      unwrap := fun wrapped => unwrapped (KeyWrap.unwrap? (Aes.cipher wrappingKey) wrapped)
      ownKey := none } := by
    simp [aes, hsize]
  refine ⟨_, hscheme, ?_, ?_, ?_, ?_⟩
  · intro _ contentKey
    simp only [wrapAes_eq_ok, exists_and_left, exists_eq', and_true]
    exact KeyWrap.fits_iff
  · intro _ contentKey wrapped hwrap
    obtain ⟨hfits, rfl⟩ := wrapAes_eq_ok.1 hwrap
    exact ⟨KeyWrap.length_wrap hfits, unwrapped_iff_wrapAes.2 hwrap⟩
  · intro _ wrapped contentKey hunwrap
    exact unwrapped_iff_wrapAes.1 hunwrap
  · intro _ wrapped hforeign
    cases hunwrap : KeyWrap.unwrap? (Aes.cipher wrappingKey) wrapped with
    | none => exact congrArg unwrapped hunwrap
    | some contentKey =>
        exact absurd (unwrapped_iff_wrapAes.1 (unwrapped_eq_ok.2 hunwrap)) (hforeign contentKey)

/-! The first of the test vectors of RFC 3394. -/

def vectorKey : Bytes := (List.range 16).map UInt8.ofNat

theorem aes_bijective_vectorKey :
    KeyAlgorithm.a128kw.wrappingKeySize? = some vectorKey.length ∧
      ∃ scheme, aes .a128kw vectorKey = .ok scheme ∧ scheme.Bijective :=
  ⟨rfl, aes_bijective rfl⟩

example : KeyWrap.wrap (Aes.cipher vectorKey) ((List.range 16).map fun index =>
    UInt8.ofNat (17 * index)) =
    Bytes.ofNat 24 0x1fa68b0a8112b447aef34bd8fb5a7b829d3e862371d2cfe5 := by
  decide +kernel

end KeyScheme

end SecurityToken
