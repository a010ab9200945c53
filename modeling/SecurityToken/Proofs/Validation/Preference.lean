import SecurityToken.Proofs.Validation.Agreement

/-!
# Which keys are tried first

A header may name keys, by an id or by a thumbprint, and then these are tried before the others. That
is all it can do: none is left out, none comes in, and on either side the keys stay in the order in
which they were given, with every repetition. Those three things leave one list only, so the
candidates are told by them. Where a resolver is to answer, its answer is taken as it is. Nothing
else of a policy has a say, in particular nothing that is there for the other use of keys.
-/

namespace SecurityToken

variable {ρ ρ' : Type}

/-! ### Moving some items to the front -/

section Partition

variable {α : Type} {inFront : α → Bool} {given arranged : List α}

/-- Whether a list is another with certain items moved to the front, and no other change of order. -/
structure StablePartition (inFront : α → Bool) (given arranged : List α) : Prop where
  perm : arranged.Perm given
  precedes : arranged.Pairwise fun earlier later => inFront later = true → inFront earlier = true
  keepsFront : arranged.filter inFront = given.filter inFront
  keepsRest : arranged.filter (!inFront ·) = given.filter (!inFront ·)

/-- By induction on the list. Behind an item that does not belong in front none does. -/
theorem eq_filter_append_filter
    (hprecedes : arranged.Pairwise fun earlier later =>
      inFront later = true → inFront earlier = true) :
    arranged = arranged.filter inFront ++ arranged.filter (!inFront ·) := by
  induction arranged with
  | nil => rfl
  | cons item rest ih =>
      obtain ⟨hitem, hrest⟩ := List.pairwise_cons.1 hprecedes
      by_cases hfront : inFront item = true
      · simpa [hfront] using ih hrest
      · have hnone : ∀ later ∈ rest, ¬inFront later = true :=
          fun later hlater hlaterFront => hfront (hitem later hlater hlaterFront)
        have hempty : rest.filter inFront = [] := List.filter_eq_nil_iff.2 hnone
        have hall : rest.filter (!inFront ·) = rest := by
          rw [List.filter_eq_self]
          simpa using hnone
        simp [hfront, hempty, hall]

/-- The demands leave one list. -/
theorem stablePartition_iff :
    StablePartition inFront given arranged ↔
      arranged = given.filter inFront ++ given.filter (!inFront ·) := by
  constructor
  · intro hpartition
    rw [← hpartition.keepsFront, ← hpartition.keepsRest]
    exact eq_filter_append_filter hpartition.precedes
  · rintro rfl
    have hfront : ∀ item ∈ given.filter inFront, inFront item = true :=
      fun _ hitem => (List.mem_filter.1 hitem).2
    have hrest : ∀ item ∈ given.filter (!inFront ·), ¬inFront item = true := by
      intro item hitem hitemFront
      rw [List.mem_filter, hitemFront] at hitem
      exact absurd hitem.2 Bool.false_ne_true
    refine ⟨List.filter_append_perm inFront given, ?_, by simp, by simp⟩
    rw [List.pairwise_append]
    refine ⟨?_, ?_, fun earlier hearlier _ _ _ => hfront earlier hearlier⟩
    · exact List.pairwise_of_forall_mem_list fun earlier hearlier _ _ _ => hfront earlier hearlier
    · exact List.pairwise_of_forall_mem_list fun _ _ later hlater hlaterFront =>
        absurd hlaterFront (hrest later hlater)

end Partition

/-! ### Keys that a header names -/

/-- Whether a header names a key: it has a text for the key's id, or for the key's thumbprint. -/
def Header.Names (header : Header) (key : Key) : Prop :=
  (∃ keyId, header.get? "kid" = some (.string keyId) ∧ key.keyId = some keyId) ∨
    ∃ thumbprint, header.get? "x5t" = some (.string thumbprint) ∧ key.thumbprint = some thumbprint

namespace Policy

/-- A hint that is absent fits no key, not even one without what it is compared with. -/
theorem isSome_and_beq_iff {hint given : Option String} :
    (hint.isSome && hint == given) = true ↔ ∃ text, hint = some text ∧ given = some text := by
  rw [Bool.and_eq_true, Option.isSome_iff_exists, beq_iff_eq]
  constructor
  · rintro ⟨⟨text, rfl⟩, rfl⟩
    exact ⟨text, rfl, rfl⟩
  · rintro ⟨text, rfl, rfl⟩
    exact ⟨⟨text, rfl⟩, rfl⟩

theorem isHinted_iff {header : Header} {key : Key} :
    isHinted header key = true ↔ header.Names key := by
  have hkeyId (keyId : String) :
      header.keyId? = some keyId ↔ header.get? "kid" = some (.string keyId) :=
    Json.bind_string?_eq_some
  have hthumbprint (thumbprint : String) :
      header.thumbprint? = some thumbprint ↔ header.get? "x5t" = some (.string thumbprint) :=
    Json.bind_string?_eq_some
  unfold isHinted Header.Names
  simp only [Bool.or_eq_true, isSome_and_beq_iff, hkeyId, hthumbprint]

end Policy

instance (header : Header) : DecidablePred header.Names :=
  fun _ => decidable_of_iff _ Policy.isHinted_iff

namespace Policy

/-! ### The candidates -/

variable {policy : Policy ρ} {use : KeyUse} {raw : String} {header : Header}

theorem candidates_of_activeResolver? {resolve : KeyResolver}
    (hactive : policy.activeResolver? use = some resolve) :
    policy.candidates use raw header = resolve raw header := by
  unfold candidates
  rw [hactive]

theorem candidates_of_inactive (hactive : policy.activeResolver? use = none) :
    policy.candidates use raw header =
      (policy.keys use).filter (header.Names ·) ++ (policy.keys use).filter (!header.Names ·) := by
  have hnames : isHinted header = fun key => decide (header.Names key) := by
    funext key
    rw [Bool.eq_iff_iff, decide_eq_true_iff, isHinted_iff]
  unfold candidates
  rw [hactive]
  simp only [List.partition_eq_filter_filter, hnames]
  rfl

theorem activeResolver?_eq_some {resolve : KeyResolver}
    (hresolver : policy.resolver? use = some resolve)
    (hasked : policy.requireResolver = true ∨ policy.keys use = []) :
    policy.activeResolver? use = some resolve := by
  unfold activeResolver?
  rw [hresolver, if_pos (by simpa using hasked)]

theorem activeResolver?_eq_none_of_keys (hrequired : policy.requireResolver = false)
    (hkeys : policy.keys use ≠ []) : policy.activeResolver? use = none := by
  unfold activeResolver?
  rw [if_neg (by simpa [hrequired] using hkeys)]

/-- What is there for one use, and whether resolvers are required, is all that counts. Of a resolver
no more than its answer does, whatever it has looked at. -/
theorem candidates_congr {other : Policy ρ'}
    (hrequired : other.requireResolver = policy.requireResolver)
    (hkeys : other.keys use = policy.keys use)
    (hanswer : (other.resolver? use).map (fun resolve => resolve raw header) =
      (policy.resolver? use).map fun resolve => resolve raw header) :
    other.candidates use raw header = policy.candidates use raw header := by
  have hactive : (other.activeResolver? use).map (fun resolve => resolve raw header) =
      (policy.activeResolver? use).map fun resolve => resolve raw header := by
    unfold activeResolver?
    rw [hrequired, hkeys]
    split
    next => exact hanswer
    next => rfl
  cases hother : other.activeResolver? use with
  | none =>
      rw [hother] at hactive
      rw [candidates_of_inactive hother, hkeys,
        candidates_of_inactive (Option.map_eq_none_iff.1 hactive.symm)]
  | some resolve =>
      rw [hother] at hactive
      obtain ⟨resolve', hresolve', hsame⟩ := Option.map_eq_some_iff.1 hactive.symm
      rw [candidates_of_activeResolver? hother, candidates_of_activeResolver? hresolve', hsame]

/-- How a policy comes to the candidate keys for a token: by its resolver, if there is one and it is
required or has no keys beside it, and else by a stable partition of the keys that are given. -/
structure ResolvesKeys (policy : Policy ρ) (use : KeyUse) (raw : String) (header : Header) :
    Prop where
  answered : ∀ resolve, policy.resolver? use = some resolve →
    policy.requireResolver = true ∨ policy.keys use = [] →
    policy.candidates use raw header = resolve raw header
  arranged : policy.resolver? use = none ∨
      policy.requireResolver = false ∧ policy.keys use ≠ [] →
    ∀ keys, policy.candidates use raw header = keys ↔
      StablePartition (header.Names ·) (policy.keys use) keys
  unaffected : ∀ {ρ' : Type} (other : Policy ρ'),
    other.requireResolver = policy.requireResolver → other.keys use = policy.keys use →
    (other.resolver? use).map (fun resolve => resolve raw header) =
      (policy.resolver? use).map (fun resolve => resolve raw header) →
    other.candidates use raw header = policy.candidates use raw header

/-- The candidates for a use are what the resolver answers, or the keys with those in front that the
header names. -/
theorem resolvesKeys (policy : Policy ρ) (use : KeyUse) (raw : String) (header : Header) :
    policy.ResolvesKeys use raw header where
  answered _ hresolver hasked :=
    candidates_of_activeResolver? (activeResolver?_eq_some hresolver hasked)
  arranged hinactive keys := by
    have hnone : policy.activeResolver? use = none := by
      rcases hinactive with hresolver | ⟨hrequired, hkeys⟩
      · exact activeResolver?_eq_none hresolver
      · exact activeResolver?_eq_none_of_keys hrequired hkeys
    rw [candidates_of_inactive hnone, stablePartition_iff]
    exact eq_comm
  unaffected _ := candidates_congr

/-- The second key has the id, and the third the thumbprint; the second is given twice. -/
example :
    let key (handle : KeyHandle) (keyId thumbprint : Option String) : Key :=
      { handle, material := .secret [], keyId, thumbprint }
    let header := (Header.empty.insertText "kid" "second").insertText "x5t" "print"
    let policy : Policy Unit :=
      { now := .earliest
        signingKeys := [key 1 none none, key 2 (some "second") none, key 3 none (some "print"),
          key 2 (some "second") none] }
    (policy.candidates .signing "" header).map Key.handle = [2, 3, 2, 1] := by
  decide

end Policy

end SecurityToken
