import Mathlib.Data.Nat.Log
import Mathlib.Tactic.Ring

namespace Binary64

/-- The value `mantissa / 2 ^ scale`. Non-negative double precision numbers
far from the ends of the exponent range are of this form. -/
structure Dyadic where
  mantissa : Nat
  scale : Nat
deriving Repr, DecidableEq

/-- Rounds to 53 significant bits, ties to even. -/
def round (n : Nat) : Nat :=
  let unit := 2 ^ (Nat.log2 n - 52)
  let quotient := n / unit
  let rest := n % unit
  if 2 * rest < unit ∨ (2 * rest = unit ∧ quotient % 2 = 0) then quotient * unit else (quotient + 1) * unit

/-- The conversion of an unsigned integer. -/
def Dyadic.ofNat (n : Nat) : Dyadic := ⟨round n, 0⟩

def Dyadic.mul (x y : Dyadic) : Dyadic := ⟨round (x.mantissa * y.mantissa), x.scale + y.scale⟩

def Dyadic.add (x y : Dyadic) : Dyadic :=
  ⟨round (x.mantissa * 2 ^ y.scale + y.mantissa * 2 ^ x.scale), x.scale + y.scale⟩

/-- The quotient is taken to more than 53 bits. A last bit that is set when
the division is not exact keeps ties apart from values next to them. -/
def Dyadic.div (x y : Dyadic) : Dyadic :=
  let divisor := y.mantissa * 2 ^ x.scale
  let scale := 64 + Nat.log2 divisor
  let dividend := x.mantissa * 2 ^ y.scale * 2 ^ scale
  ⟨round (2 * (dividend / divisor) + if dividend % divisor = 0 then 0 else 1), scale + 1⟩

/-- The conversion to an integer. -/
def Dyadic.trunc (x : Dyadic) : Nat := x.mantissa / 2 ^ x.scale

/-- A number of at most 53 significant bits stays as it is. -/
theorem round_shift {k : Nat} (small : k < 2 ^ 53) (e : Nat) : round (k * 2 ^ e) = k * 2 ^ e := by
  have exact : 2 ^ (Nat.log2 (k * 2 ^ e) - 52) ∣ k * 2 ^ e := by
    rcases Nat.eq_zero_or_pos k with zero | positive
    · simp [zero]
    · have bits : Nat.log2 (k * 2 ^ e) < 53 + e := by
        rw [Nat.log2_lt (Nat.mul_pos positive (Nat.two_pow_pos e)).ne', Nat.pow_add]
        exact Nat.mul_lt_mul_of_pos_right small (Nat.two_pow_pos e)
      exact (Nat.pow_dvd_pow 2 (by omega)).trans (Nat.dvd_mul_left _ _)
  have positive := Nat.two_pow_pos (Nat.log2 (k * 2 ^ e) - 52)
  simp only [round, Nat.mod_eq_zero_of_dvd exact]
  rw [if_pos (Or.inl (by omega)), Nat.div_mul_cancel exact]

theorem round_of_lt {n : Nat} (small : n < 2 ^ 53) : round n = n := by
  simpa using round_shift small 0

/-- A rounded number stays as it is. -/
theorem round_round (n : Nat) : round (round n) = round n := by
  have quotient : n / 2 ^ (Nat.log2 n - 52) < 2 ^ 53 := by
    rw [Nat.div_lt_iff_lt_mul (Nat.two_pow_pos _), ← Nat.pow_add]
    exact Nat.lt_of_lt_of_le Nat.lt_log2_self (Nat.pow_le_pow_right (by omega) (by omega))
  have carried : (n / 2 ^ (Nat.log2 n - 52) + 1) * 2 ^ (Nat.log2 n - 52) =
      round ((n / 2 ^ (Nat.log2 n - 52) + 1) * 2 ^ (Nat.log2 n - 52)) := by
    by_cases small : n / 2 ^ (Nat.log2 n - 52) + 1 < 2 ^ 53
    · rw [round_shift small]
    · have power : n / 2 ^ (Nat.log2 n - 52) + 1 = 2 ^ 53 := by omega
      have one := @round_shift 1 (by omega) (53 + (Nat.log2 n - 52))
      rw [Nat.one_mul, Nat.pow_add] at one
      rw [power, one]
  have kept := @round_shift _ quotient (Nat.log2 n - 52)
  have value : round n = n / 2 ^ (Nat.log2 n - 52) * 2 ^ (Nat.log2 n - 52) ∨
      round n = (n / 2 ^ (Nat.log2 n - 52) + 1) * 2 ^ (Nat.log2 n - 52) := by
    unfold round
    dsimp only
    split
    · exact Or.inl rfl
    · exact Or.inr rfl
  rcases value with down | up
  · rw [down, kept]
  · rw [up, ← carried]

/-- Nothing is lost when a product is added to 0. -/
theorem trunc_zero_add_mul (x y : Dyadic) : (Dyadic.add (.ofNat 0) (.mul x y)).trunc = (Dyadic.mul x y).trunc := by
  have zero : round 0 = 0 := round_of_lt (by omega)
  simp only [Dyadic.add, Dyadic.mul, Dyadic.ofNat, Dyadic.trunc, zero, Nat.zero_mul, Nat.pow_zero, Nat.mul_one,
    Nat.zero_add, round_round]

/-- A factor that is a quotient without remainder brings an exact product. -/
theorem mul_div_exact {s a b q : Nat} (exact : b * q = a) (positive : 0 < b) (smallFactor : s < 2 ^ 53)
    (smallDividend : a < 2 ^ 53) (smallProduct : s * q < 2 ^ 53) :
    ∃ e, Dyadic.mul (.ofNat s) (.div (.ofNat a) (.ofNat b)) = ⟨s * q * 2 ^ e, e⟩ := by
  have quotientLe : q ≤ a := exact ▸ Nat.le_mul_of_pos_left q positive
  rcases Nat.eq_zero_or_pos q with zero | nonzero
  · subst zero
    refine ⟨64 + Nat.log2 (round b) + 1, ?_⟩
    simp [Dyadic.mul, Dyadic.div, Dyadic.ofNat, ← exact, round]
  have divisorLe : b ≤ a := exact ▸ Nat.le_mul_of_pos_right b nonzero
  let e := 64 + Nat.log2 b
  have dividend : a * 2 ^ e / b = q * 2 ^ e := by
    rw [← exact, Nat.mul_assoc, Nat.mul_div_cancel_left _ positive]
  have noRest : a * 2 ^ e % b = 0 := by
    rw [← exact, Nat.mul_assoc, Nat.mul_mod_right]
  have doubled : 2 * (q * 2 ^ e) = q * 2 ^ (e + 1) := by
    rw [Nat.pow_succ]
    ring
  have quotient : Dyadic.div (.ofNat a) (.ofNat b) = ⟨q * 2 ^ (e + 1), e + 1⟩ := by
    simp only [Dyadic.div, Dyadic.ofNat, round_of_lt smallDividend, round_of_lt (by omega : b < 2 ^ 53), Nat.pow_zero,
      Nat.mul_one]
    rw [dividend, noRest, if_pos rfl, Nat.add_zero, doubled, round_shift (by omega)]
  refine ⟨e + 1, ?_⟩
  rw [quotient, Dyadic.mul, Dyadic.ofNat, round_of_lt smallFactor, ← Nat.mul_assoc, round_shift smallProduct, Nat.zero_add]

theorem trunc_mul_div {s a b q : Nat} (exact : b * q = a) (positive : 0 < b) (smallFactor : s < 2 ^ 53)
    (smallDividend : a < 2 ^ 53) (smallProduct : s * q < 2 ^ 53) :
    (Dyadic.mul (.ofNat s) (.div (.ofNat a) (.ofNat b))).trunc = s * q := by
  obtain ⟨e, product⟩ := mul_div_exact exact positive smallFactor smallDividend smallProduct
  rw [product, Dyadic.trunc, Nat.mul_div_cancel _ (Nat.two_pow_pos e)]

/-- The sum with such a product is exact too. -/
theorem trunc_add_mul_div {n s a b q : Nat} (exact : b * q = a) (positive : 0 < b) (smallFactor : s < 2 ^ 53)
    (smallDividend : a < 2 ^ 53) (smallSum : n + s * q < 2 ^ 53) :
    (Dyadic.add (.ofNat n) (.mul (.ofNat s) (.div (.ofNat a) (.ofNat b)))).trunc = n + s * q := by
  obtain ⟨e, product⟩ := mul_div_exact exact positive smallFactor smallDividend (by omega : s * q < 2 ^ 53)
  rw [product, Dyadic.add, Dyadic.ofNat, round_of_lt (by omega : n < 2 ^ 53), Nat.pow_zero, Nat.mul_one, ← Nat.add_mul,
    round_shift smallSum, Dyadic.trunc, Nat.zero_add, Nat.mul_div_cancel _ (Nat.two_pow_pos e)]

end Binary64
