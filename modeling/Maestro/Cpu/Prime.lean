import Mathlib.Data.Int.Notation
import Mathlib.Data.Nat.Prime.Basic

/-!
# The search for primes

`prime.c` measures how long it takes to test the odd numbers up to a million for primality.
`isPrime` divides by every number from 2 up to half of its argument. The machine's `int` wraps
around and its division truncates; on the numbers that the loops reach neither makes a
difference. The loops run on fuel, and `none` means that a loop is still running.
-/

namespace Maestro.Cpu

def PRIMEMAX : Int32 := 1000000

/-- The loop of `isPrime` with the divisors from `i` on. -/
def tryDivisors (num : Int32) : ℕ → Int32 → Option Bool
  | 0, _ => none
  | fuel + 1, i =>
    if i ≤ num / 2 then
      if num % i = 0 then some false else tryDivisors num fuel (i + 1)
    else some true

/-- The divisors are tried from 2 on. -/
def isPrime (fuel : ℕ) (num : Int32) : Option Bool := tryDivisors num fuel 2

/-- The loop of `findPrime` from `i` on, with fuel for each test; the results are not used. -/
def testNumbers (budget : ℕ) : ℕ → Int32 → Option Unit
  | 0, _ => none
  | fuel + 1, i =>
    if i ≤ PRIMEMAX then
      if i = 2 then testNumbers budget fuel (i + 1)
      else if i % 2 ≠ 0 then (isPrime budget i).bind fun _ => testNumbers budget fuel (i + 1)
      else testNumbers budget fuel (i + 1)
    else some ()

/-- The numbers are tested from 2 on. -/
def findPrime (fuel : ℕ) : Option Unit := testNumbers fuel fuel 2

section Words

variable {num i : Int32} {n d : ℕ}

/-- Below the largest `int` the increment does not wrap around. -/
theorem toInt_succ (hi : i.toInt = d) (hlt : d < 2 ^ 31 - 1) : (i + 1).toInt = (d + 1 : ℕ) := by
  rw [Int32.toInt_add, hi]
  change ((d : ℤ) + 1).bmod (2 ^ 32) = _
  exact Int.bmod_eq_of_le (by omega) (by omega)

/-- Half of a natural number. -/
theorem toInt_half (hnum : num.toInt = n) : (num / 2).toInt = (n / 2 : ℕ) := by
  rw [Int32.toInt_div_of_ne_right num 2 (by decide), hnum]
  rfl

/-- The loop condition on natural numbers. -/
theorem le_half_iff (hnum : num.toInt = n) (hi : i.toInt = d) : i ≤ num / 2 ↔ d ≤ n / 2 := by
  rw [Int32.le_iff_toInt_le, hi, toInt_half hnum]
  exact Int.ofNat_le

/-- A remainder is zero exactly for a divisor. -/
theorem mod_eq_zero_iff (hnum : num.toInt = n) (hi : i.toInt = d) : num % i = 0 ↔ d ∣ n := by
  rw [← Int32.toInt_inj, Int32.toInt_mod, hnum, hi, Nat.dvd_iff_mod_eq_zero]
  change ((n % d : ℕ) : ℤ) = 0 ↔ _
  exact Int.natCast_eq_zero

end Words

/-- No number from `d` up to half of `n` divides `n`. -/
def NoDivisorFrom (d n : ℕ) : Prop := ∀ m, d ≤ m → m ≤ n / 2 → ¬m ∣ n

instance (d n : ℕ) : Decidable (NoDivisorFrom d n) :=
  decidable_of_iff (∀ m < n / 2 + 1, d ≤ m → ¬m ∣ n)
    ⟨fun h m hd hm => h m (Nat.lt_succ_of_le hm) hd, fun h m hm hd => h m hd (Nat.le_of_lt_succ hm)⟩

/-- There is nothing to try beyond the half. -/
theorem noDivisorFrom_of_lt {d n : ℕ} (hlt : n / 2 < d) : NoDivisorFrom d n := by
  intro m hd hm
  omega

/-- The first number to try, and the others. -/
theorem noDivisorFrom_iff_succ {d n : ℕ} (hle : d ≤ n / 2) :
    NoDivisorFrom d n ↔ ¬d ∣ n ∧ NoDivisorFrom (d + 1) n := by
  constructor
  · intro hnone
    exact ⟨hnone d (Nat.le_refl d) hle, fun m hm => hnone m (Nat.le_of_succ_le hm)⟩
  · intro hnone m hd hm
    obtain heq | hlt := Nat.eq_or_lt_of_le hd
    · rw [← heq]
      exact hnone.1
    · exact hnone.2 m hlt hm

/-- A proper divisor is at most half of the number, so no divisor is lost. -/
theorem prime_iff_noDivisorFrom {n : ℕ} (hn : 2 ≤ n) : n.Prime ↔ NoDivisorFrom 2 n := by
  rw [Nat.prime_def_lt']
  constructor
  · intro hprime m hm hhalf
    exact hprime.2 m hm (by omega)
  · intro hnone
    refine ⟨hn, fun m hm hlt hdvd => hnone m hm ?_ hdvd⟩
    -- the cofactor of a proper divisor is at least 2
    obtain ⟨k, rfl⟩ := hdvd
    have hcofactor : 2 ≤ k := by
      by_contra hsmall
      have hle : m * k ≤ m * 1 := Nat.mul_le_mul_left m (by omega)
      omega
    have hdouble : m * 2 ≤ m * k := Nat.mul_le_mul_left m hcofactor
    omega

/-- From `d` on, the loop finds out whether any of the numbers to try is a divisor. -/
theorem tryDivisors_eq {num i : Int32} {n d fuel : ℕ} (hnum : num.toInt = n) (hi : i.toInt = d)
    (hle : d ≤ n / 2 + 1) (hfuel : n / 2 + 1 < d + fuel) :
    tryDivisors num fuel i = some (decide (NoDivisorFrom d n)) := by
  have hbound : n < 2 ^ 31 := by
    have hlt := num.toInt_lt
    omega
  induction fuel generalizing i d with
  | zero => omega
  | succ fuel ih =>
    rw [tryDivisors]
    by_cases hhalf : d ≤ n / 2
    · rw [if_pos ((le_half_iff hnum hi).mpr hhalf)]
      by_cases hdvd : d ∣ n
      · have hfound : ¬NoDivisorFrom d n := fun hnone => hnone d (Nat.le_refl d) hhalf hdvd
        rw [if_pos ((mod_eq_zero_iff hnum hi).mpr hdvd), decide_eq_false hfound]
      · have hsucc : NoDivisorFrom (d + 1) n ↔ NoDivisorFrom d n := by
          rw [noDivisorFrom_iff_succ hhalf]
          exact (and_iff_right hdvd).symm
        rw [if_neg fun h => hdvd ((mod_eq_zero_iff hnum hi).mp h),
          ih (toInt_succ hi (by omega)) (by omega) (by omega)]
        simp only [hsucc]
    · have hnone : NoDivisorFrom d n := noDivisorFrom_of_lt (Nat.lt_of_not_le hhalf)
      rw [if_neg fun h => hhalf ((le_half_iff hnum hi).mp h), decide_eq_true hnone]

/-- On a number from 2 on, `isPrime` returns whether there is a divisor up to the half. -/
theorem isPrime_eq {num : Int32} {n fuel : ℕ} (hnum : num.toInt = n) (hn : 2 ≤ n) (hfuel : n < fuel) :
    isPrime fuel num = some (decide (NoDivisorFrom 2 n)) := by
  have hfirst : (2 : Int32).toInt = (2 : ℕ) := rfl
  exact tryDivisors_eq hnum hfirst (by omega) (by omega)

/-- For every `int` from 2 on, `isPrime` returns, and it returns true if and only if its
argument is a prime number. -/
theorem isPrime_iff_prime (num : Int32) (htwo : 2 ≤ num) (fuel : ℕ) (hfuel : num.toInt < fuel) :
    ∃ result, isPrime fuel num = some result ∧ (result = true ↔ num.toInt.toNat.Prime) := by
  have hle : 2 ≤ num.toInt := Int32.le_iff_toInt_le.mp htwo
  obtain ⟨n, hnum⟩ := Int.eq_ofNat_of_zero_le (Int.le_trans (by decide) hle)
  have hn : 2 ≤ n := by omega
  refine ⟨decide (NoDivisorFrom 2 n), isPrime_eq hnum hn (by omega), ?_⟩
  rw [decide_eq_true_iff, hnum]
  exact (prime_iff_noDivisorFrom hn).symm

/-- Two, where the loop tries no divisor, and four, whose only divisor is the bound itself. -/
theorem isPrime_two_four :
    (∃ result, isPrime 3 2 = some result ∧ (result = true ↔ Nat.Prime 2)) ∧
      ∃ result, isPrime 5 4 = some result ∧ (result = true ↔ Nat.Prime 4) :=
  ⟨isPrime_iff_prime 2 (by decide) 3 (by decide), isPrime_iff_prime 4 (by decide) 5 (by decide)⟩

/-- From a number between 2 and the end on, every test returns, and so does the loop. -/
theorem testNumbers_eq {budget fuel d : ℕ} {i : Int32} (hi : i.toInt = d) (htwo : 2 ≤ d)
    (hle : d ≤ 1000001) (hbudget : 1000000 < budget) (hfuel : 1000001 < d + fuel) :
    testNumbers budget fuel i = some () := by
  induction fuel generalizing i d with
  | zero => omega
  | succ fuel ih =>
    have hmax : i ≤ PRIMEMAX ↔ d ≤ 1000000 := by
      rw [Int32.le_iff_toInt_le, hi]
      exact Int.ofNat_le
    rw [testNumbers]
    by_cases hend : d ≤ 1000000
    · have hnext : testNumbers budget fuel (i + 1) = some () :=
        ih (toInt_succ hi (by omega)) (by omega) (by omega) (by omega)
      rw [if_pos (hmax.mpr hend), hnext, isPrime_eq hi htwo (by omega), Option.bind_some, ite_self, ite_self]
    · rw [if_neg fun h => hend (hmax.mp h)]

/-- `findPrime` returns. -/
theorem findPrime_eq (fuel : ℕ) (hfuel : 1000000 < fuel) : findPrime fuel = some () := by
  have hfirst : (2 : Int32).toInt = (2 : ℕ) := rfl
  exact testNumbers_eq hfirst (Nat.le_refl 2) (by decide) hfuel (by omega)

end Maestro.Cpu
