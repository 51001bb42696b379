import Mathlib.Algebra.Order.Floor.Ring
import Mathlib.Data.Int.Log
import Mathlib.Tactic.Linarith
import Mathlib.Tactic.Ring
import Mathlib.Tactic.FieldSimp
import Mathlib.Tactic.Positivity
import Mathlib.Tactic.NormNum

/-! Rounding to the nearest, the even one of two. A binary format has the numbers
`m * 2 ^ e` with a significand `m` of so many bits and an exponent that is not below the
least. -/

namespace Quidz.Library.Rounding

variable {K : Type*} [Field K] [LinearOrder K] [IsStrictOrderedRing K] [FloorRing K]

section Integers

/-- The nearest integer, the even one of two. -/
def roundEven (x : K) : ℤ := if 2 * Int.fract x < 1 ∨ 2 * Int.fract x = 1 ∧ Even ⌊x⌋ then ⌊x⌋ else ⌊x⌋ + 1

theorem roundEven_le_iff (x : K) (n : ℤ) : roundEven x ≤ n ↔ 2 * x < 2 * n + 1 ∨ 2 * x = 2 * n + 1 ∧ Even n := by
  have split : x = ⌊x⌋ + Int.fract x := (Int.floor_add_fract x).symm
  have low := Int.fract_nonneg x
  have high := Int.fract_lt_one x
  unfold roundEven
  rcases lt_trichotomy ⌊x⌋ n with below | level | above
  · have step : (⌊x⌋ : K) + 1 ≤ n := by exact_mod_cast below
    refine iff_of_true (by split <;> omega) (.inl (by linarith))
  · rw [← level]
    have same : (2 * x < 2 * (⌊x⌋ : K) + 1 ∨ 2 * x = 2 * (⌊x⌋ : K) + 1 ∧ Even ⌊x⌋) ↔
        (2 * Int.fract x < 1 ∨ 2 * Int.fract x = 1 ∧ Even ⌊x⌋) := by
      refine or_congr ?_ (and_congr_left' ?_)
      · constructor <;> intro half <;> linarith
      · constructor <;> intro half <;> linarith
    rw [same]
    split
    next near => exact iff_of_true le_rfl near
    next far => exact iff_of_false (by omega) far
  · have step : (n : K) + 1 ≤ ⌊x⌋ := by exact_mod_cast above
    refine iff_of_false (by split <;> omega) ?_
    rintro (half | ⟨half, _⟩) <;> linarith

theorem roundEven_le {x : K} {n : ℤ} (bounded : x ≤ n) : roundEven x ≤ n :=
  (roundEven_le_iff x n).mpr (.inl (by linarith))

theorem le_roundEven {x : K} {n : ℤ} (bounded : (n : K) ≤ x) : n ≤ roundEven x := by
  by_contra low
  have below : roundEven x ≤ n - 1 := by omega
  rw [roundEven_le_iff] at below
  push_cast at below
  rcases below with half | ⟨half, _⟩ <;> linarith

theorem roundEven_intCast (n : ℤ) : roundEven (n : K) = n := le_antisymm (roundEven_le le_rfl) (le_roundEven le_rfl)

end Integers

section Format

-- A format of `p` bits of significand, with the exponents from `least` on.
variable (p : ℕ) (least : ℤ)

/-- The exponent a number is written with. -/
def exponent (x : K) : ℤ := max (Int.log 2 |x| - (p - 1)) least

def nearest (x : K) : K := roundEven (x / 2 ^ exponent p least x) * 2 ^ exponent p least x

omit [IsStrictOrderedRing K] in
/-- The power is an integer in units of a lower one. -/
theorem zpow_div {low high : ℤ} (ordered : low ≤ high) : (2 : K) ^ high / 2 ^ low = ((2 ^ (high - low).toNat : ℤ) : K) := by
  rw [← zpow_sub₀ (by norm_num), Int.cast_pow, Int.cast_ofNat, ← zpow_natCast, Int.toNat_of_nonneg (by omega)]

variable {p least}

/-- Seen from an exponent, a number is rounded in its units, or stays below or above all
the numbers written with it. -/
theorem nearest_cases (positive : 0 < p) {e : ℤ} (allowed : least ≤ e) {x : K} (nonneg : 0 ≤ x) :
    nearest p least x = roundEven (x / 2 ^ e) * 2 ^ e ∨
    (x < 2 ^ (e + p - 1) ∧ nearest p least x ≤ 2 ^ (e + p - 1)) ∨
    (2 ^ (e + p) ≤ x ∧ 2 ^ (e + p) ≤ nearest p least x) := by
  have unit (e : ℤ) : (0 : K) < 2 ^ e := zpow_pos (by norm_num) e
  rcases nonneg.eq_or_lt with rfl | some_
  · refine .inr (.inl ⟨unit _, ?_⟩)
    have zero : nearest p least (0 : K) = 0 := by
      have round : roundEven (0 : K) = 0 := by simpa using roundEven_intCast (K := K) 0
      simp [nearest, round]
    rw [zero]
    exact (unit _).le
  rcases lt_trichotomy (exponent p least x) e with lower | same | higher
  · have magnitude : Int.log 2 x < e + p - 1 := by
      have bound := (le_max_left _ _).trans_lt lower
      rw [abs_of_pos some_] at bound
      omega
    have small : x < 2 ^ (e + p - 1) := by exact_mod_cast (Int.lt_zpow_iff_log_lt (by norm_num) some_).mpr magnitude
    refine .inr (.inl ⟨small, ?_⟩)
    have scaled : x / 2 ^ exponent p least x ≤ ((2 ^ (e + p - 1 - exponent p least x).toNat : ℤ) : K) := by
      rw [← zpow_div (by omega)]
      exact (div_le_div_iff_of_pos_right (unit _)).mpr small.le
    have rounded : (roundEven (x / 2 ^ exponent p least x) : K) ≤ ((2 ^ (e + p - 1 - exponent p least x).toNat : ℤ) : K) := by
      exact_mod_cast roundEven_le scaled
    rwa [← zpow_div (by omega), le_div_iff₀ (unit _)] at rounded
  · exact .inl (by rw [nearest, same])
  · have own : exponent p least x = Int.log 2 x - (p - 1) := by
      rw [exponent, abs_of_pos some_] at higher ⊢
      exact max_eq_left (by omega)
    have large : (2 : K) ^ (exponent p least x + p - 1) ≤ x := by
      have log : exponent p least x + p - 1 = Int.log 2 x := by omega
      rw [log]
      exact_mod_cast Int.zpow_log_le_self (b := 2) (by norm_num) some_
    have beyond : (2 : K) ^ (e + p) ≤ 2 ^ (exponent p least x + p - 1) := zpow_le_zpow_right₀ (by norm_num) (by omega)
    refine .inr (.inr ⟨beyond.trans large, beyond.trans ?_⟩)
    have scaled : ((2 ^ (exponent p least x + p - 1 - exponent p least x).toNat : ℤ) : K) ≤ x / 2 ^ exponent p least x := by
      rw [← zpow_div (by omega)]
      exact (div_le_div_iff_of_pos_right (unit _)).mpr large
    have rounded : ((2 ^ (exponent p least x + p - 1 - exponent p least x).toNat : ℤ) : K) ≤
        (roundEven (x / 2 ^ exponent p least x) : K) := by exact_mod_cast le_roundEven scaled
    rwa [← zpow_div (by omega), div_le_iff₀ (unit _)] at rounded

/-- A number is not beyond the middle between `m * 2 ^ e` and the next. -/
def Reaches (m e : ℤ) (x : K) : Prop := 2 * x < (2 * m + 1) * 2 ^ e ∨ 2 * x = (2 * m + 1) * 2 ^ e ∧ Even m

/-- `m * 2 ^ e` is the last number of the format that has a property of the small ones. -/
structure Last (p : ℕ) (least : ℤ) (small : K → Prop) (m e : ℤ) : Prop where
  positive : 0 < p
  allowed : least ≤ e
  normal : 2 ^ (p - 1) ≤ m
  bounded : m < 2 ^ p
  below : ∀ y, y ≤ 2 ^ (e + p - 1) → small y
  level : ∀ s : ℤ, small (s * 2 ^ e) ↔ s ≤ m
  above : ∀ y, 2 ^ (e + p) ≤ y → ¬small y

/-- What is rounded to the nearest is small exactly if it is not beyond the middle. -/
theorem Last.nearest_iff {small : K → Prop} {m e : ℤ} (last : Last p least small m e) {x : K} (nonneg : 0 ≤ x) :
    small (nearest p least x) ↔ Reaches m e x := by
  have unit : (0 : K) < 2 ^ e := zpow_pos (by norm_num) e
  have floor : (2 : K) ^ (e + p - 1) = 2 ^ (p - 1) * 2 ^ e := by
    rw [← zpow_natCast, ← zpow_add₀ (by norm_num)]
    congr 1
    have := last.positive
    omega
  have ceiling : (2 : K) ^ (e + p) = 2 ^ p * 2 ^ e := by
    rw [add_comm, zpow_add₀ (by norm_num), zpow_natCast]
  have normal : (2 : K) ^ (p - 1) ≤ m := by exact_mod_cast last.normal
  have bounded : (m : K) + 1 ≤ 2 ^ p := by exact_mod_cast last.bounded
  unfold Reaches
  rcases nearest_cases last.positive last.allowed nonneg with level | ⟨low, stays⟩ | ⟨high, stays⟩
  · rw [level, last.level, roundEven_le_iff, ← mul_div_assoc, div_lt_iff₀ unit, div_eq_iff unit.ne']
  · refine iff_of_true (last.below _ stays) (.inl ?_)
    rw [floor] at low
    nlinarith
  · refine iff_of_false (last.above _ stays) ?_
    rw [ceiling] at high
    rintro (middle | ⟨middle, _⟩) <;> nlinarith

theorem nearest_nonneg {x : K} (nonneg : 0 ≤ x) : 0 ≤ nearest p least x := by
  have unit : (0 : K) < 2 ^ exponent p least x := zpow_pos (by norm_num) _
  have whole : 0 ≤ roundEven (x / 2 ^ exponent p least x) := le_roundEven (by rw [Int.cast_zero]; exact div_nonneg nonneg unit.le)
  exact mul_nonneg (by exact_mod_cast whole) unit.le

/-- The last number of the format below the power of two after an exponent. -/
theorem last_below (positive : 0 < p) {e : ℤ} (allowed : least ≤ e) :
    Last p least (fun y : K => y < 2 ^ (e + p)) (2 ^ p - 1) e where
  positive := positive
  allowed := allowed
  normal := Int.le_sub_one_of_lt (pow_lt_pow_right₀ (by norm_num) (by omega))
  bounded := Int.sub_one_lt_iff.mpr le_rfl
  below _ low := low.trans_lt (zpow_lt_zpow_right₀ (by norm_num) (by omega))
  level s := by
    have unit : (0 : K) < 2 ^ e := zpow_pos (by norm_num) e
    have ceiling : (2 : K) ^ (e + p) = ((2 ^ p : ℤ) : K) * 2 ^ e := by
      rw [add_comm, zpow_add₀ (by norm_num), zpow_natCast, Int.cast_pow, Int.cast_ofNat]
    rw [ceiling, mul_lt_mul_iff_of_pos_right unit, Int.cast_lt, Int.le_sub_one_iff]
  above _ high := high.not_gt

end Format

section Naturals

-- The last number of the format that rounds to at most `t`.
variable (p t : ℕ)

def lastExponent : ℤ := if t = 0 then -p else Nat.log 2 t - (p - 1)

def lastSignificand : ℤ :=
  if 0 ≤ lastExponent p t then t / 2 ^ (lastExponent p t).toNat
  else (2 * t + 1) * 2 ^ (-lastExponent p t - 1).toNat - t % 2

variable {p t}

/-- The powers of two next to `t`, in units of the last number. -/
theorem last_powers (some_ : t ≠ 0) :
    (2 : K) ^ (lastExponent p t + p - 1) ≤ t ∧ (t : K) + 1 ≤ 2 ^ (lastExponent p t + p) := by
  have low : lastExponent p t + p - 1 = Nat.log 2 t := by rw [lastExponent, if_neg some_]; omega
  have high : lastExponent p t + p = (Nat.log 2 t + 1 : ℕ) := by rw [lastExponent, if_neg some_]; omega
  rw [low, high, zpow_natCast, zpow_natCast]
  exact ⟨by exact_mod_cast Nat.pow_log_le_self 2 some_, by exact_mod_cast Nat.lt_pow_succ_log_self (by norm_num) t⟩

theorem lastSignificand_bounds (positive : 0 < p) (t : ℕ) :
    2 ^ (p - 1) ≤ lastSignificand p t ∧ lastSignificand p t < 2 ^ p := by
  have double : (2 : ℤ) ^ p = 2 * 2 ^ (p - 1) := by rw [← pow_succ', Nat.sub_add_cancel positive]
  unfold lastSignificand
  by_cases zero : t = 0
  · have exponent : lastExponent p t = -p := by rw [lastExponent, if_pos zero]
    have half : (-lastExponent p t - 1).toNat = p - 1 := by omega
    have unit : (0 : ℤ) < 2 ^ (p - 1) := by positivity
    rw [if_neg (by omega), half, double, zero]
    constructor <;> push_cast <;> omega
  have exponent : lastExponent p t = Nat.log 2 t - (p - 1) := by rw [lastExponent, if_neg zero]
  have low : (2 : ℤ) ^ Nat.log 2 t ≤ t := by exact_mod_cast Nat.pow_log_le_self 2 zero
  have high : (t : ℤ) < 2 ^ (Nat.log 2 t + 1) := by exact_mod_cast Nat.lt_pow_succ_log_self (by norm_num) t
  split
  next whole =>
    have unit : (0 : ℤ) < 2 ^ (lastExponent p t).toNat := by positivity
    rw [Int.le_ediv_iff_mul_le unit, Int.ediv_lt_iff_lt_mul unit, ← pow_add, ← pow_add]
    have same : p - 1 + (lastExponent p t).toNat = Nat.log 2 t := by omega
    have next_ : p + (lastExponent p t).toNat = Nat.log 2 t + 1 := by omega
    rw [same, next_]
    exact ⟨low, high⟩
  next part =>
    have same : p - 1 = Nat.log 2 t + ((-lastExponent p t - 1).toNat + 1) := by omega
    have unit : (0 : ℤ) < 2 ^ (-lastExponent p t - 1).toNat := by positivity
    have odd : (0 : ℤ) ≤ t % 2 ∧ (t : ℤ) % 2 ≤ 1 := by omega
    rw [double, same, pow_add, pow_succ]
    rw [pow_succ] at high
    constructor <;> nlinarith

/-- A number of the format rounds to at most `t` up to the last one. -/
theorem roundEven_level (t : ℕ) (s : ℤ) :
    roundEven ((s : K) * 2 ^ lastExponent p t) ≤ t ↔ s ≤ lastSignificand p t := by
  unfold lastSignificand
  split
  next whole =>
    have unit : (0 : ℤ) < 2 ^ (lastExponent p t).toNat := by positivity
    have power : (2 : K) ^ lastExponent p t = ((2 ^ (lastExponent p t).toNat : ℤ) : K) := by
      rw [Int.cast_pow, Int.cast_ofNat, ← zpow_natCast, Int.toNat_of_nonneg whole]
    rw [power, ← Int.cast_mul, roundEven_intCast, Int.le_ediv_iff_mul_le unit]
  next part =>
    generalize steps : (-lastExponent p t - 1).toNat = k
    have unit : (0 : K) < 2 ^ k := by positivity
    have power : (2 : K) ^ lastExponent p t = (2 * 2 ^ k)⁻¹ := by
      have exponent : lastExponent p t = -((k + 1 : ℕ) : ℤ) := by omega
      rw [exponent, zpow_neg, zpow_natCast, pow_succ']
    have scaled : 2 * ((s : K) * (2 * 2 ^ k)⁻¹) = s / 2 ^ k := by field_simp
    have whole : (2 * (t : K) + 1) * 2 ^ k = (((2 * t + 1) * 2 ^ k : ℤ) : K) := by push_cast; ring
    rw [power, roundEven_le_iff, scaled, Int.cast_natCast, div_lt_iff₀ unit, div_eq_iff unit.ne', whole, Int.cast_lt, Int.cast_inj,
      Int.even_iff]
    omega

theorem last_round {least : ℤ} (positive : 0 < p) (allowed : least ≤ -p) (t : ℕ) :
    Last p least (fun y : K => roundEven y ≤ t) (lastSignificand p t) (lastExponent p t) where
  positive := positive
  allowed := by
    unfold lastExponent
    split <;> omega
  normal := (lastSignificand_bounds positive t).1
  bounded := (lastSignificand_bounds positive t).2
  level := roundEven_level t
  below y low := by
    by_cases zero : t = 0
    · subst zero
      have half : (2 : K) ^ (lastExponent p 0 + p - 1) = 1 / 2 := by simp [lastExponent]
      rw [half] at low
      rw [roundEven_le_iff]
      rcases low.lt_or_eq with less | same
      · exact .inl (by push_cast; linarith)
      · exact .inr ⟨by rw [same]; norm_num, by simp⟩
    · have power := (last_powers (K := K) (p := p) zero).1
      refine roundEven_le (low.trans (power.trans ?_))
      rw [Int.cast_natCast]
  above y high := by
    have next_ : ((t + 1 : ℤ) : K) ≤ y := by
      by_cases zero : t = 0
      · subst zero
        simpa [lastExponent] using high
      · push_cast
        exact (last_powers zero).2.trans high
    have round := le_roundEven next_
    omega

end Naturals
end Quidz.Library.Rounding
