/-
# LiveTemplates.Proofs.Number.Magnitudes -- which decimals are read as a double

The bits of the doubles that are not negative count their magnitudes in order, from zero up to
the bits of infinity, which stand for 2^1024 where decimals are rounded.  The gap above a
magnitude is its unit.  The gap below is one as well, or half of it at a power of two.

A decimal is read as the nearest magnitude, of two that are equally near as the one with an even
mantissa (`RoundsTo`).  So the decimals that are read as a magnitude form an interval around it
that ends in the middle of both gaps, and this is what `Binary.reads` decides by integers alone.

* `magnitude_succ`, `magnitude_pred`: the gaps;
* `Binary.reads_iff`: what it means that a decimal reads;
* `RoundsTo.between`, `RoundsTo.le_of_le`: these are intervals, in the order of magnitudes.
-/
import Mathlib.Algebra.Order.Field.Power
import Mathlib.Data.Rat.Cast.Order
import Mathlib.Tactic.FieldSimp
import Mathlib.Tactic.Linarith
import Mathlib.Tactic.LinearCombination
import Mathlib.Tactic.Ring
import LiveTemplates.Number.Notation

namespace LiveTemplates.Number

set_option autoImplicit false

/-! ## Values -/

/-- The value of a decimal. -/
def Decimal.value (d : Decimal) : ℚ := d.digits * 10 ^ d.exponent

namespace Binary

/-- The value of the last place of the mantissa. -/
def unit (x : Binary) : ℚ := 2 ^ x.exponent

/-- The value of a magnitude. -/
def value (x : Binary) : ℚ := x.mantissa * x.unit

theorem unit_pos (x : Binary) : 0 < x.unit := zpow_pos (by decide) _

/-- The magnitude with these bits. -/
def nth (n : Nat) : Binary := ofBits (.ofNat n)

end Binary

/-- The bits of infinity. -/
def infinityBits : Nat := 2047 * 2 ^ 52

/-- The value of the magnitude with these bits. -/
def magnitude (n : Nat) : ℚ := (Binary.nth n).value

/-! ## The magnitudes in order -/

namespace Binary

theorem ofBits_eq (bits : UInt64) :
    ofBits bits =
      if bits.toNat / 2 ^ 52 % 2 ^ 11 = 0 then ⟨bits.toNat % 2 ^ 52, -1074, false⟩
      else ⟨2 ^ 52 + bits.toNat % 2 ^ 52, (bits.toNat / 2 ^ 52 % 2 ^ 11 : Nat) - 1075,
        bits.toNat % 2 ^ 52 == 0 && bits.toNat / 2 ^ 52 % 2 ^ 11 > 1⟩ := by
  have exponent : ((bits >>> 52) &&& 0x7FF).toNat = bits.toNat / 2 ^ 52 % 2 ^ 11 := by
    rw [UInt64.toNat_and, UInt64.toNat_shiftRight, ← Nat.and_two_pow_sub_one_eq_mod,
      ← Nat.shiftRight_eq_div_pow]
    rfl
  have fraction : (bits &&& 0xFFFFFFFFFFFFF).toNat = bits.toNat % 2 ^ 52 := by
    rw [UInt64.toNat_and, ← Nat.and_two_pow_sub_one_eq_mod]
    rfl
  simp only [ofBits, exponent, fraction, beq_iff_eq]
  rfl

/-- The sign does not matter. -/
theorem ofBits_eq_nth (bits : UInt64) : ofBits bits = nth (bits.toNat % 2 ^ 63) := by
  have fits : (UInt64.ofNat (bits.toNat % 2 ^ 63)).toNat = bits.toNat % 2 ^ 63 := by
    rw [UInt64.toNat_ofNat']
    omega
  have exponent : bits.toNat % 2 ^ 63 / 2 ^ 52 % 2 ^ 11 = bits.toNat / 2 ^ 52 % 2 ^ 11 := by omega
  have fraction : bits.toNat % 2 ^ 63 % 2 ^ 52 = bits.toNat % 2 ^ 52 := by omega
  rw [nth, ofBits_eq, ofBits_eq, fits, exponent, fraction]

/-- A magnitude below all normal ones. -/
theorem nth_small {f : Nat} (small : f < 2 ^ 52) : nth f = ⟨f, -1074, false⟩ := by
  have fits : (UInt64.ofNat f).toNat = f := by
    rw [UInt64.toNat_ofNat']
    omega
  have exponent : f / 2 ^ 52 % 2 ^ 11 = 0 := by omega
  have fraction : f % 2 ^ 52 = f := by omega
  rw [nth, ofBits_eq, fits, exponent, fraction, if_pos rfl]

/-- A normal magnitude. -/
theorem nth_normal {e f : Nat} (normal : 0 < e) (fits : e < 2 ^ 11) (small : f < 2 ^ 52) :
    nth (e * 2 ^ 52 + f) = ⟨2 ^ 52 + f, e - 1075, f == 0 && e > 1⟩ := by
  have whole : (UInt64.ofNat (e * 2 ^ 52 + f)).toNat = e * 2 ^ 52 + f := by
    rw [UInt64.toNat_ofNat']
    omega
  have exponent : (e * 2 ^ 52 + f) / 2 ^ 52 % 2 ^ 11 = e := by omega
  have fraction : (e * 2 ^ 52 + f) % 2 ^ 52 = f := by omega
  rw [nth, ofBits_eq, whole, exponent, fraction, if_neg (by omega)]

/-- Each magnitude up to the last is small or normal. -/
theorem bits_cases {n : Nat} (inside : n ≤ infinityBits) :
    n < 2 ^ 52 ∨ ∃ e f, 0 < e ∧ e < 2 ^ 11 ∧ f < 2 ^ 52 ∧ n = e * 2 ^ 52 + f := by
  rw [infinityBits] at inside
  by_cases small : n < 2 ^ 52
  · exact .inl small
  · exact .inr ⟨n / 2 ^ 52, n % 2 ^ 52, by omega, by omega, by omega, by omega⟩

theorem mantissa_lt {n : Nat} (inside : n ≤ infinityBits) : (nth n).mantissa < 2 ^ 53 := by
  obtain small | ⟨e, f, normal, fits, below, rfl⟩ := bits_cases inside
  · rw [nth_small small]
    exact small.trans (by decide)
  · rw [nth_normal normal fits below]
    simp only
    omega

/-- The mantissa is even at every other place. -/
theorem mantissa_mod {n : Nat} (inside : n ≤ infinityBits) :
    (nth n).mantissa % 2 = n % 2 := by
  obtain small | ⟨e, f, normal, fits, below, rfl⟩ := bits_cases inside
  · rw [nth_small small]
  · rw [nth_normal normal fits below]
    simp only
    omega

theorem mantissa_pos {n : Nat} (positive : 0 < n) (inside : n ≤ infinityBits) :
    0 < (nth n).mantissa := by
  obtain small | ⟨e, f, normal, fits, below, rfl⟩ := bits_cases inside
  · rwa [nth_small small]
  · rw [nth_normal normal fits below]
    simp only
    omega

/-- The gap below is smaller at a power of two. -/
theorem mantissa_of_narrow {n : Nat} (inside : n ≤ infinityBits) (narrow : (nth n).narrow = true) :
    (nth n).mantissa = 2 ^ 52 := by
  obtain small | ⟨e, f, normal, fits, below, rfl⟩ := bits_cases inside
  · rw [nth_small small] at narrow
    cases narrow
  · rw [nth_normal normal fits below] at narrow ⊢
    obtain ⟨rfl, -⟩ : f = 0 ∧ _ := by simpa using narrow
    rfl

end Binary

/-- The gap above a magnitude. -/
theorem magnitude_succ {n : Nat} (inside : n < infinityBits) :
    magnitude (n + 1) = magnitude n + (Binary.nth n).unit := by
  obtain small | ⟨e, f, normal, fits, below, rfl⟩ := Binary.bits_cases inside.le
  · rcases Nat.lt_or_ge (n + 1) (2 ^ 52) with next | last
    · simp only [magnitude, Binary.value, Binary.unit, Binary.nth_small small,
        Binary.nth_small next]
      generalize (2 : ℚ) ^ (-1074 : Int) = unit
      push_cast
      ring
    · obtain rfl : n = 2 ^ 52 - 1 := by omega
      have next := Binary.nth_normal (e := 1) (f := 0) (by decide) (by decide) (by decide)
      rw [magnitude, magnitude, Binary.nth_small small,
        show 2 ^ 52 - 1 + 1 = 1 * 2 ^ 52 + 0 from rfl, next]
      have same : ((1 : Nat) : Int) - 1075 = -1074 := rfl
      simp only [Binary.value, Binary.unit, same]
      generalize (2 : ℚ) ^ (-1074 : Int) = unit
      push_cast
      ring
  · have here := Binary.nth_normal normal fits below
    rcases Nat.lt_or_ge (f + 1) (2 ^ 52) with next | last
    · simp only [magnitude, Binary.value, Binary.unit, here, Nat.add_assoc (e * 2 ^ 52),
        Binary.nth_normal normal fits next]
      push_cast
      ring
    · obtain rfl : f = 2 ^ 52 - 1 := by omega
      have more : e + 1 < 2 ^ 11 := by
        rw [infinityBits] at inside
        omega
      have next := Binary.nth_normal (e := e + 1) (f := 0) (by omega) more (by decide)
      have double : (2 : ℚ) ^ (((e + 1 : Nat) : Int) - 1075) = 2 * 2 ^ ((e : Int) - 1075) := by
        rw [← zpow_one_add₀ (by decide)]
        congr 1
        push_cast
        ring
      rw [magnitude, magnitude, here,
        show e * 2 ^ 52 + (2 ^ 52 - 1) + 1 = (e + 1) * 2 ^ 52 + 0 by omega, next]
      simp only [Binary.value, Binary.unit, double]
      push_cast
      ring

/-- The gap below a magnitude. -/
theorem magnitude_pred {n : Nat} (inside : n + 1 ≤ infinityBits) :
    magnitude n = magnitude (n + 1) -
      (Binary.nth (n + 1)).unit / if (Binary.nth (n + 1)).narrow then 2 else 1 := by
  have above := magnitude_succ (n := n) (by omega)
  suffices same : (Binary.nth n).unit =
      (Binary.nth (n + 1)).unit / if (Binary.nth (n + 1)).narrow then 2 else 1 by
    rw [above, ← same]
    ring
  obtain small | ⟨e, f, normal, fits, below, split⟩ := Binary.bits_cases inside
  · rw [Binary.nth_small small, Binary.nth_small (by omega)]
    simp [Binary.unit]
  · rw [split, Binary.nth_normal normal fits below]
    rcases Nat.eq_zero_or_pos f with rfl | later
    · obtain rfl | more : e = 1 ∨ 1 < e := by omega
      · rw [Binary.nth_small (f := n) (by omega)]
        simp [Binary.unit]
      · have before : n = (e - 1) * 2 ^ 52 + (2 ^ 52 - 1) := by omega
        have half : (2 : ℚ) ^ (((e - 1 : Nat) : Int) - 1075) = 2 ^ ((e : Int) - 1075) / 2 := by
          rw [Nat.cast_sub (by omega), div_eq_mul_inv, ← zpow_sub_one₀ (by decide)]
          congr 1
          push_cast
          ring
        rw [before, Binary.nth_normal (by omega) (by omega) (by decide)]
        simpa [Binary.unit, more] using half
    · have before : n = e * 2 ^ 52 + (f - 1) := by omega
      rw [before, Binary.nth_normal normal fits (by omega)]
      simp [Binary.unit, later.ne']

/-- The magnitudes grow with their bits. -/
theorem magnitude_lt {m n : Nat} (before : m < n) (inside : n ≤ infinityBits) :
    magnitude m < magnitude n := by
  induction n, before using Nat.le_induction with
  | base =>
      rw [magnitude_succ (by omega)]
      exact lt_add_of_pos_right _ (Binary.unit_pos _)
  | succ n _ ih =>
      rw [magnitude_succ (by omega)]
      exact (ih (by omega)).trans (lt_add_of_pos_right _ (Binary.unit_pos _))

theorem magnitude_le {m n : Nat} (before : m ≤ n) (inside : n ≤ infinityBits) :
    magnitude m ≤ magnitude n := by
  obtain same | less := Nat.eq_or_lt_of_le before
  · rw [same]
  · exact (magnitude_lt less inside).le

theorem magnitude_zero : magnitude 0 = 0 := by
  rw [magnitude, Binary.nth_small (by decide), Binary.value]
  simp

theorem magnitude_pos {n : Nat} (positive : 0 < n) (inside : n ≤ infinityBits) :
    0 < magnitude n :=
  magnitude_zero ▸ magnitude_lt positive inside

/-! ## Rounding -/

/-- A value is read as a magnitude: no other is nearer, and one that is equally near does not
have an even mantissa. -/
def RoundsTo (q : ℚ) (n : Nat) : Prop :=
  n < infinityBits ∧ ∀ m ≤ infinityBits, m ≠ n →
    |q - magnitude n| < |q - magnitude m| ∨
      |q - magnitude n| = |q - magnitude m| ∧ (Binary.nth n).mantissa % 2 = 0

/-- The greater of two values is the nearer one above the middle. -/
theorem nearer_iff {q a b : ℚ} (less : a < b) : |q - b| < |q - a| ↔ a + b < 2 * q := by
  rw [← sq_lt_sq]
  constructor
  · intro nearer
    nlinarith
  · intro above
    nlinarith

theorem nearer_below_iff {q a b : ℚ} (less : a < b) : |q - a| < |q - b| ↔ 2 * q < a + b := by
  rw [← sq_lt_sq]
  constructor
  · intro nearer
    nlinarith
  · intro below
    nlinarith

theorem equally_near_iff {q a b : ℚ} (less : a < b) : |q - b| = |q - a| ↔ a + b = 2 * q := by
  rw [← sq_eq_sq_iff_abs_eq_abs]
  constructor
  · intro equal
    have factors : (b - a) * (2 * q - (a + b)) = 0 := by linear_combination (-1 : ℚ) * equal
    rcases mul_eq_zero.1 factors with none | middle
    · linarith
    · linarith
  · intro middle
    linear_combination (b - a) * middle

/-- What is read as a magnitude lies between the middles of its gaps, and the middles are read as
it if its mantissa is even. -/
theorem roundsTo_iff {q : ℚ} {n : Nat} (inside : n + 1 < infinityBits) :
    RoundsTo q (n + 1) ↔
      (magnitude n + magnitude (n + 1) < 2 * q ∧ 2 * q < magnitude (n + 1) + magnitude (n + 2)) ∨
      (Binary.nth (n + 1)).mantissa % 2 = 0 ∧
        magnitude n + magnitude (n + 1) ≤ 2 * q ∧
        2 * q ≤ magnitude (n + 1) + magnitude (n + 2) := by
  have down : magnitude n < magnitude (n + 1) := magnitude_lt (by omega) inside.le
  have up : magnitude (n + 1) < magnitude (n + 2) := magnitude_lt (by omega) inside
  constructor
  · rintro ⟨-, nearest⟩
    have above := nearest n (by omega) (by omega)
    have below := nearest (n + 2) inside (by omega)
    rw [nearer_iff down, equally_near_iff down] at above
    rw [nearer_below_iff up, eq_comm, equally_near_iff up] at below
    rcases above with above | ⟨above, even⟩
    · rcases below with below | ⟨below, even⟩
      · exact .inl ⟨above, below⟩
      · exact .inr ⟨even, above.le, below.ge⟩
    · rcases below with below | ⟨below, -⟩
      · exact .inr ⟨even, above.le, below.le⟩
      · exact .inr ⟨even, above.le, below.ge⟩
  · intro between
    refine ⟨inside, fun m known other => ?_⟩
    rcases Nat.lt_or_gt_of_ne other with before | after
    · have less : magnitude m < magnitude (n + 1) := magnitude_lt before inside.le
      have farther : magnitude m ≤ magnitude n := magnitude_le (by omega) (by omega)
      rw [nearer_iff less, equally_near_iff less]
      rcases between with ⟨above, -⟩ | ⟨even, above, -⟩
      · exact .inl (by linarith)
      · rcases (add_le_add_left farther _ |>.trans above).lt_or_eq with strict | equal
        · exact .inl strict
        · exact .inr ⟨equal, even⟩
    · have less : magnitude (n + 1) < magnitude m := magnitude_lt after known
      have farther : magnitude (n + 2) ≤ magnitude m := magnitude_le (by omega) known
      rw [nearer_below_iff less, eq_comm, equally_near_iff less]
      rcases between with ⟨-, below⟩ | ⟨even, -, below⟩
      · exact .inl (by linarith)
      · rcases (below.trans (add_le_add_right farther _)).lt_or_eq with strict | equal
        · exact .inl strict
        · exact .inr ⟨equal.symm, even⟩

theorem roundsTo_magnitude {n : Nat} (inside : n < infinityBits) : RoundsTo (magnitude n) n := by
  refine ⟨inside, fun m known other => .inl ?_⟩
  have different : magnitude n ≠ magnitude m := by
    rcases Nat.lt_or_gt_of_ne other with before | after
    · exact (magnitude_lt before inside.le).ne'
    · exact (magnitude_lt after known).ne
  rw [sub_self, abs_zero]
  exact abs_pos.2 (sub_ne_zero.2 different)

/-- Between two values that are read as a magnitude, all are. -/
theorem RoundsTo.between {p q r : ℚ} {n : Nat} (low : RoundsTo p (n + 1))
    (high : RoundsTo r (n + 1)) (above : p ≤ q) (below : q ≤ r) : RoundsTo q (n + 1) := by
  have inside := low.1
  rw [roundsTo_iff inside] at low high ⊢
  rcases low with ⟨above', -⟩ | ⟨even, above', -⟩
  · rcases high with ⟨-, below'⟩ | ⟨even, -, below'⟩
    · exact .inl ⟨by linarith, by linarith⟩
    · exact .inr ⟨even, by linarith, by linarith⟩
  · rcases high with ⟨-, below'⟩ | ⟨-, -, below'⟩
    · exact .inr ⟨even, by linarith, by linarith⟩
    · exact .inr ⟨even, by linarith, by linarith⟩

/-- Greater values are not read as smaller magnitudes. -/
theorem RoundsTo.le_of_lt {p q : ℚ} {m n : Nat} (low : RoundsTo p m) (high : RoundsTo q n)
    (less : p < q) : m ≤ n := by
  by_contra! before
  have apart := magnitude_lt before low.1.le
  have first := low.2 n high.1.le before.ne
  have second := high.2 m low.1.le before.ne'
  rw [nearer_iff apart, equally_near_iff apart] at first
  rw [nearer_below_iff apart, eq_comm, equally_near_iff apart] at second
  rcases first with first | ⟨first, -⟩ <;> rcases second with second | ⟨second, -⟩ <;> linarith

/-! ## Reading -/

/-- A power with an integer exponent, as a fraction of powers. -/
theorem zpow_mul_pow_toNat {b : ℚ} (nonzero : b ≠ 0) (e : Int) :
    b ^ e * b ^ (-e).toNat = b ^ e.toNat := by
  rw [← zpow_natCast, ← zpow_natCast, ← zpow_add₀ nonzero]
  congr 1
  omega

namespace Binary

theorem toNat?_eq_some_iff (x : Binary) (i : Nat) : x.toNat? = some i ↔ x.value = i := by
  rw [toNat?, value, unit]
  split
  · rename_i whole
    have power : (2 : ℚ) ^ x.exponent = (2 ^ x.exponent.toNat : Nat) := by
      rw [Nat.cast_pow, ← zpow_natCast, Int.toNat_of_nonneg whole]
      rfl
    rw [Option.some_inj, power, ← Nat.cast_mul, Nat.cast_inj]
    rfl
  · rename_i part
    have power : (2 : ℚ) ^ x.exponent * (2 ^ (-x.exponent).toNat : Nat) = 1 := by
      rw [Nat.cast_pow, Nat.cast_ofNat, zpow_mul_pow_toNat (by decide),
        Int.toNat_of_nonpos (by omega), pow_zero]
    set b := 2 ^ (-x.exponent).toNat
    have positive : 0 < b := Nat.pow_pos (by decide)
    have equal : (x.mantissa : ℚ) * 2 ^ x.exponent = i ↔ x.mantissa = i * b := by
      rw [← mul_left_inj' (Nat.cast_ne_zero.2 positive.ne' : (b : ℚ) ≠ 0), mul_assoc, power, mul_one]
      exact_mod_cast Iff.rfl
    rw [equal]
    simp only [Nat.pow_eq, beq_iff_eq]
    split
    · rename_i divides
      rw [Option.some_inj]
      constructor
      · rintro rfl
        exact (Nat.div_mul_cancel (Nat.dvd_of_mod_eq_zero divides)).symm
      · intro split
        rw [split]
        exact Nat.mul_div_cancel _ positive
    · rename_i rest
      refine ⟨fun absent => absurd absent.symm (Option.some_ne_none i), fun split => ?_⟩
      refine absurd ?_ rest
      rw [split]
      exact Nat.mul_mod_left _ _

/-- What the terms of a comparison with a decimal are multiplied by to become integers. -/
def scaling (x : Binary) (e : Int) : ℚ := 2 ^ (-x.exponent).toNat * 10 ^ (-e).toNat

theorem scaling_pos (x : Binary) (e : Int) : 0 < x.scaling e := by
  rw [scaling]
  positivity

theorem unit_scaling (x : Binary) (e : Int) :
    x.unit * x.scaling e = (Nat.pow 2 x.exponent.toNat * Nat.pow 10 (-e).toNat : Nat) := by
  simp only [unit, scaling, Nat.pow_eq, Nat.cast_mul, Nat.cast_pow, Nat.cast_ofNat]
  rw [← mul_assoc, zpow_mul_pow_toNat (by decide)]

theorem denominator_scaling (x : Binary) (e : Int) :
    10 ^ e * x.scaling e = (x.denominator e : ℚ) := by
  simp only [denominator, scaling, Nat.pow_eq, Nat.cast_mul, Nat.cast_pow, Nat.cast_ofNat]
  rw [mul_left_comm, zpow_mul_pow_toNat (by decide)]

theorem numerator_scaling (x : Binary) (e : Int) : x.value * x.scaling e = x.numerator e := by
  rw [value, mul_assoc, unit_scaling, numerator]
  push_cast
  ring

/-- A decimal is compared with a multiple of the unit. -/
theorem le_decimal_iff (x : Binary) (d : Decimal) (c : Nat) :
    c * (Nat.pow 2 x.exponent.toNat * Nat.pow 10 (-d.exponent).toNat) ≤
      4 * d.digits * x.denominator d.exponent ↔ c * x.unit ≤ 4 * d.value := by
  rw [← Nat.cast_le (α := ℚ), Nat.cast_mul, ← unit_scaling, Nat.cast_mul, ← denominator_scaling,
    ← mul_assoc, ← mul_assoc, mul_le_mul_iff_left₀ (x.scaling_pos _), Decimal.value]
  push_cast
  rw [mul_assoc]

theorem decimal_le_iff (x : Binary) (d : Decimal) (c : Nat) :
    4 * d.digits * x.denominator d.exponent ≤
      c * (Nat.pow 2 x.exponent.toNat * Nat.pow 10 (-d.exponent).toNat) ↔
      4 * d.value ≤ c * x.unit := by
  rw [← Nat.cast_le (α := ℚ), Nat.cast_mul, ← denominator_scaling, Nat.cast_mul, Nat.cast_mul,
    ← unit_scaling, ← mul_assoc, ← mul_assoc, mul_le_mul_iff_left₀ (x.scaling_pos _),
    Decimal.value]
  push_cast
  rw [mul_assoc]

/-- The middles of the gaps, in quarters of the unit. -/
theorem middle_below {n : Nat} (inside : n + 1 ≤ infinityBits) :
    (((if (nth (n + 1)).narrow then 4 * (nth (n + 1)).mantissa - 1
      else 4 * (nth (n + 1)).mantissa - 2 : Nat) : ℚ)) * (nth (n + 1)).unit =
      2 * (magnitude n + magnitude (n + 1)) := by
  have positive : 0 < (nth (n + 1)).mantissa := mantissa_pos n.succ_pos inside
  rw [magnitude_pred inside, magnitude, value]
  split
  · rw [Nat.cast_sub (by omega)]
    push_cast
    ring
  · rw [Nat.cast_sub (by omega)]
    push_cast
    ring

theorem middle_above {n : Nat} (inside : n < infinityBits) :
    ((4 * (nth n).mantissa + 2 : Nat) : ℚ) * (nth n).unit =
      2 * (magnitude n + magnitude (n + 1)) := by
  rw [magnitude_succ inside, magnitude, value]
  push_cast
  ring

/-- A decimal reads if it is read as the magnitude. -/
theorem reads_iff {n : Nat} (inside : n + 1 < infinityBits) (d : Decimal) :
    (nth (n + 1)).reads d = true ↔ RoundsTo d.value (n + 1) := by
  have low := middle_below inside.le
  have high := middle_above inside
  have double : ∀ a : ℚ, 2 * a ≤ 4 * d.value ↔ a ≤ 2 * d.value := fun a => by
    constructor <;> intro le <;> linarith
  have double' : ∀ a : ℚ, 4 * d.value ≤ 2 * a ↔ 2 * d.value ≤ a := fun a => by
    constructor <;> intro le <;> linarith
  rw [roundsTo_iff inside, reads]
  split
  · rename_i even
    simp only [beq_iff_eq] at even
    simp only [Bool.and_eq_true, decide_eq_true_eq, le_decimal_iff, decimal_le_iff, low, high,
      double, double', even, true_and]
    constructor
    · exact .inr
    · rintro (⟨above, below⟩ | between)
      · exact ⟨above.le, below.le⟩
      · exact between
  · rename_i odd
    simp only [beq_iff_eq] at odd
    simp only [Bool.and_eq_true, decide_eq_true_eq, ← not_le, le_decimal_iff, decimal_le_iff, low,
      high, double, double', odd, false_and, or_false]

end Binary

end LiveTemplates.Number
