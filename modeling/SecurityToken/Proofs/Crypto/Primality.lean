import SecurityToken.Crypto.Curve.Basic
import SecurityToken.Proofs.Crypto.Modular

/-!
# The primes of the curves

Pocklington's criterion: a base may tell that certain primes divide every prime factor of a number
less one; if their product is not below the root of the number, then no such factor is, and the
number is prime. A certificate is a list of numbers that each rest on primes before it, and the
smallest ones on trial division. Checking one takes powers by repeated squaring, so that what the
fields of the curves and their orders rest on is decided by evaluation.
-/

namespace SecurityToken

namespace Primality

/-- A prime that divides a number less one divides a factor of the number less one, if a base has the
power one there but not the one that the prime is left out of. -/
theorem dvd_sub_one {number base prime factor : Nat} [Fact factor.Prime] (hnumber : 1 < number)
    (hprime : prime.Prime) (hdvd : prime ∣ number - 1)
    (hpower : (base : ZMod factor) ^ (number - 1) = 1)
    (hroot : (base : ZMod factor) ^ ((number - 1) / prime) ≠ 1) : prime ∣ factor - 1 := by
  have hbase : (base : ZMod factor) ≠ 0 := by
    intro hzero
    rw [hzero, zero_pow (by omega)] at hpower
    exact zero_ne_one hpower
  refine dvd_trans ?_ (ZMod.orderOf_dvd_card_sub_one hbase)
  by_contra hnot
  obtain ⟨rest, hrest⟩ := hdvd
  have horder : orderOf (base : ZMod factor) ∣ prime * rest := by
    rw [← hrest]
    exact orderOf_dvd_of_pow_eq_one hpower
  have hcoprime := (hprime.coprime_iff_not_dvd.2 hnot).symm
  rw [hrest, Nat.mul_div_cancel_left rest hprime.pos] at hroot
  exact hroot (orderOf_dvd_iff_pow_eq_one.1 (hcoprime.dvd_of_dvd_mul_left horder))

theorem prod_dvd {factors : List Nat} (hnodup : factors.Nodup)
    (hprime : ∀ factor ∈ factors, factor.Prime) {value : Nat}
    (hdvd : ∀ factor ∈ factors, factor ∣ value) : factors.prod ∣ value := by
  induction factors with
  | nil => simp
  | cons factor rest ih =>
      rw [List.nodup_cons] at hnodup
      rw [List.forall_mem_cons] at hprime hdvd
      rw [List.prod_cons]
      refine Nat.Coprime.mul_dvd_of_dvd_of_dvd ?_ hdvd.1 (ih hnodup.2 hprime.2 hdvd.2)
      refine Nat.coprime_list_prod_right_iff.2 fun other hother => ?_
      refine (Nat.coprime_primes hprime.1 (hprime.2 other hother)).2 ?_
      rintro rfl
      exact hnodup.1 hother

/-- A number, a base, and primes that divide the number less one. -/
structure Entry where
  number : Nat
  base : Nat
  factors : List Nat

namespace Entry

/-- Whether the powers of the base are as they are for a prime: one, and for each factor left out
apart from one by a number without a divisor in common with it. -/
structure Holds (entry : Entry) : Prop where
  one_lt : 1 < entry.number
  nodup : entry.factors.Nodup
  large : entry.number ≤ entry.factors.prod * entry.factors.prod
  power : Modular.power entry.number entry.base (entry.number - 1) = 1
  dvd : ∀ factor ∈ entry.factors, factor ∣ entry.number - 1
  root : ∀ factor ∈ entry.factors,
    Nat.Coprime (Modular.power entry.number entry.base ((entry.number - 1) / factor) +
      (entry.number - 1)) entry.number

/-- Pocklington's criterion. -/
theorem Holds.prime {entry : Entry} (hholds : entry.Holds)
    (hfactors : ∀ factor ∈ entry.factors, factor.Prime) : entry.number.Prime := by
  by_contra hnot
  have hone := hholds.one_lt
  have hprime := Nat.minFac_prime (Nat.ne_of_gt hone)
  have hfact : Fact (Nat.minFac entry.number).Prime := ⟨hprime⟩
  have hminFac := Nat.minFac_dvd entry.number
  have hproduct : entry.factors.prod ∣ Nat.minFac entry.number - 1 := by
    refine prod_dvd hholds.nodup hfactors fun factor hfactor => ?_
    refine @dvd_sub_one entry.number entry.base factor _ _ hone (hfactors factor hfactor)
      (hholds.dvd factor hfactor) ?_ ?_
    · rw [← Modular.cast_power_of_dvd hminFac, hholds.power, Nat.cast_one]
    · intro hroot
      rw [← Modular.cast_power_of_dvd hminFac] at hroot
      refine hprime.one_lt.ne' (Nat.eq_one_of_dvd_coprimes (hholds.root factor hfactor) ?_ hminFac)
      rw [← ZMod.natCast_eq_zero_iff, Nat.cast_add, hroot, Nat.cast_sub hone.le,
        (ZMod.natCast_eq_zero_iff _ _).2 hminFac]
      simp
  have hle := Nat.le_of_dvd (Nat.sub_pos_of_lt hprime.one_lt) hproduct
  have hlt : entry.factors.prod < Nat.minFac entry.number := by
    have := hprime.one_lt
    omega
  have hsquare := Nat.mul_self_lt_mul_self hlt
  have hminimal := Nat.minFac_sq_le_self (Nat.zero_lt_of_lt hone) hnot
  rw [Nat.pow_two] at hminimal
  have hlarge := hholds.large
  omega

instance (entry : Entry) : Decidable entry.Holds :=
  decidable_of_iff (1 < entry.number ∧ entry.factors.Nodup ∧
      entry.number ≤ entry.factors.prod * entry.factors.prod ∧
      Modular.power entry.number entry.base (entry.number - 1) = 1 ∧
      (∀ factor ∈ entry.factors, factor ∣ entry.number - 1) ∧
      ∀ factor ∈ entry.factors,
        Nat.Coprime (Modular.power entry.number entry.base ((entry.number - 1) / factor) +
          (entry.number - 1)) entry.number)
    ⟨fun ⟨hone, hnodup, hlarge, hpower, hdvd, hroot⟩ =>
        ⟨hone, hnodup, hlarge, hpower, hdvd, hroot⟩,
      fun hholds => ⟨hholds.one_lt, hholds.nodup, hholds.large, hholds.power, hholds.dvd,
        hholds.root⟩⟩

end Entry

/-! ### Certificates -/

/-- Whether a number below 2 ^ 16 has no divisor below 2 ^ 8 but one and itself. -/
def IsSmallPrime (number : Nat) : Prop :=
  1 < number ∧ number < 65536 ∧ ∀ divisor < 256, divisor ∣ number → divisor ≤ 1 ∨ divisor = number

instance (number : Nat) : Decidable (IsSmallPrime number) :=
  inferInstanceAs (Decidable (_ ∧ _ ∧ _))

theorem IsSmallPrime.prime {number : Nat} (hsmall : IsSmallPrime number) : number.Prime := by
  obtain ⟨hone, hlt, hdivisors⟩ := hsmall
  by_contra hnot
  have hprime := Nat.minFac_prime (Nat.ne_of_gt hone)
  have hminimal := Nat.minFac_sq_le_self (Nat.zero_lt_of_lt hone) hnot
  have hroot : Nat.minFac number < 256 := by nlinarith
  rcases hdivisors _ hroot (Nat.minFac_dvd number) with hunit | hself
  · exact absurd hprime.one_lt (Nat.not_lt.2 hunit)
  · exact hnot (hself ▸ hprime)

/-- Whether each number of a list rests on numbers before it and on small primes. -/
def Certifies : (proved : List Nat) → List Entry → Prop
  | _, [] => True
  | proved, entry :: rest =>
      (∀ factor ∈ entry.factors, factor ∈ proved ∨ IsSmallPrime factor) ∧ entry.Holds ∧
        Certifies (entry.number :: proved) rest

def decidableCertifies : (proved : List Nat) → (entries : List Entry) →
    Decidable (Certifies proved entries)
  | _, [] => isTrue trivial
  | proved, entry :: rest =>
      have := decidableCertifies (entry.number :: proved) rest
      inferInstanceAs (Decidable (_ ∧ _ ∧ _))

instance (proved : List Nat) (entries : List Entry) : Decidable (Certifies proved entries) :=
  decidableCertifies proved entries

theorem Certifies.prime {proved : List Nat} {entries : List Entry}
    (hcertifies : Certifies proved entries) (hproved : ∀ number ∈ proved, number.Prime) :
    ∀ entry ∈ entries, entry.number.Prime := by
  induction entries generalizing proved with
  | nil => exact fun entry hentry => absurd hentry List.not_mem_nil
  | cons entry rest ih =>
      obtain ⟨hfactors, hholds, hrest⟩ := hcertifies
      have hprime : entry.number.Prime := by
        refine hholds.prime fun factor hfactor => ?_
        rcases hfactors factor hfactor with hfactor | hsmall
        · exact hproved factor hfactor
        · exact hsmall.prime
      exact List.forall_mem_cons.2 ⟨hprime, ih hrest (List.forall_mem_cons.2 ⟨hprime, hproved⟩)⟩

def certificate : List Entry :=
  [⟨704251, 2, [313, 5]⟩,
    ⟨78283, 2, [4349]⟩,
    ⟨46076956964474543, 2, [704251, 78283]⟩,
    ⟨66417393611, 2, [3677, 197]⟩,
    ⟨11290956913871, 2, [66417393611]⟩,
    ⟨774023187263532362759620327192479577272145303, 2, [46076956964474543, 11290956913871]⟩,
    ⟨835945042244614951780389953367877943453916927241, 2,
      [774023187263532362759620327192479577272145303]⟩,
    ⟨Curve.p256.prime, 2, [835945042244614951780389953367877943453916927241]⟩,
    ⟨155317, 3, [43, 7, 3]⟩,
    ⟨191039911, 2, [155317]⟩,
    ⟨208150935158385979, 2, [191039911, 3023]⟩,
    ⟨2624747550333869278416773953, 2, [208150935158385979]⟩,
    ⟨104471, 2, [337]⟩,
    ⟨3969899, 2, [104471]⟩,
    ⟨1002328039319, 2, [3969899]⟩,
    ⟨Curve.p256.order, 2, [2624747550333869278416773953, 1002328039319]⟩,
    ⟨363557, 2, [937]⟩,
    ⟨532247449, 2, [363557]⟩,
    ⟨44925942675193, 2, [532247449]⟩,
    ⟨35581458644053887931343, 2, [44925942675193]⟩,
    ⟨23964610537191310276190549303, 2, [35581458644053887931343]⟩,
    ⟨862725979338887169942859774909, 2, [23964610537191310276190549303]⟩,
    ⟨20705423504133292078628634597817, 2, [862725979338887169942859774909]⟩,
    ⟨413244619895455989650825325680172591660047, 2, [20705423504133292078628634597817]⟩,
    ⟨12397338596863679689524759770405177749801411, 2,
      [413244619895455989650825325680172591660047]⟩,
    ⟨246608641, 2, [21407]⟩,
    ⟨105957871, 2, [881, 211]⟩,
    ⟨529709925838459440593, 2, [246608641, 105957871]⟩,
    ⟨19173790298027098165721053155794528970226934547887232785722672956982046098136719667167519737147526097, 2,
      [12397338596863679689524759770405177749801411, 529709925838459440593]⟩,
    ⟨Curve.p384.prime, 2,
      [19173790298027098165721053155794528970226934547887232785722672956982046098136719667167519737147526097]⟩,
    ⟨272109983, 2, [421, 233]⟩,
    ⟨228572385721, 2, [272109983]⟩,
    ⟨23314383343543, 2, [228572385721]⟩,
    ⟨426632512014427833817, 2, [23314383343543]⟩,
    ⟨1495199339761412565498084319, 2, [426632512014427833817]⟩,
    ⟨17942392077136950785977011829, 2, [1495199339761412565498084319]⟩,
    ⟨9863677, 2, [881, 311]⟩,
    ⟨37344768852931, 2, [9863677]⟩,
    ⟨55942463741690639, 2, [37344768852931]⟩,
    ⟨1059392654943455286185473617842338478315215895509773412096307, 2,
      [17942392077136950785977011829, 55942463741690639]⟩,
    ⟨3055465788140352002733946906144561090641249606160407884365391979704929268480326390471, 2,
      [1059392654943455286185473617842338478315215895509773412096307]⟩,
    ⟨Curve.p384.order, 2,
      [3055465788140352002733946906144561090641249606160407884365391979704929268480326390471]⟩]

theorem certifies_certificate : Certifies [] certificate := by
  decide +kernel

theorem prime_of_mem_certificate {number : Nat} (hnumber : number ∈ certificate.map Entry.number) :
    number.Prime := by
  obtain ⟨entry, hentry, rfl⟩ := List.mem_map.1 hnumber
  exact certifies_certificate.prime (fun _ hproved => absurd hproved List.not_mem_nil) entry hentry

end Primality

namespace Curve

theorem prime_prime (curve : Curve) : curve.prime.Prime := by
  cases curve <;> exact Primality.prime_of_mem_certificate (by decide)

theorem prime_order (curve : Curve) : curve.order.Prime := by
  cases curve <;> exact Primality.prime_of_mem_certificate (by decide)

instance (curve : Curve) : Fact curve.prime.Prime := ⟨curve.prime_prime⟩

instance (curve : Curve) : Fact curve.order.Prime := ⟨curve.prime_order⟩

end Curve

end SecurityToken
