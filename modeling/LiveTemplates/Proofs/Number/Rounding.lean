/-
# LiveTemplates.Proofs.Number.Rounding -- what products, quotients and decimals are rounded to

Doubles are multiplied, divided and read from decimals by shifting a mantissa to the place where
the result has room for it, while two bits remember how much has fallen out of it.  What comes out
is the nearest magnitude wherever there is one (`RoundsTo`).

* `PastMiddle`: a value goes to the magnitude above a gap.  The magnitude that it is read as is the
  only one between such a gap and one that is none (`RoundsTo.eq`);
* `Represents`: what the mantissa and the two bits say of a value; shifting keeps it;
* `toBits_pack`, `Kind.of`: the bits of a mantissa at a place, and back again;
* `pack_roundWithAccuracy`: rounding a mantissa with its bits;
* `toBits_mul`, `toBits_div`, `toFloat_exact`: products, quotients and integers;
* `toBits_nearest`: a decimal is read as the nearest double.
-/
import Mathlib
import LiveTemplates.Number.Reading
import LiveTemplates.Proofs.Number.Shortest

namespace LiveTemplates.Number

set_option autoImplicit false

open Float.Model (Format UnpackedFloat totalExponent)
open Float.Model.UnpackedFloat (Accuracy ExtendedMantissa Sign packComponents roundWithAccuracy
  shiftToTargetExponent unpackExponent unpackMantissa unpackSign)

/-! ## Middles -/

/-- A value goes to the magnitude above a gap: it is above the middle of the gap, or in the middle
and the magnitude above is even. -/
def PastMiddle (q : ℚ) (n : Nat) : Prop :=
  magnitude n + magnitude (n + 1) < 2 * q ∨
    magnitude n + magnitude (n + 1) = 2 * q ∧ (n + 1) % 2 = 0

theorem PastMiddle.of_lt {q : ℚ} {m n : Nat} (past : PastMiddle q n) (less : m < n)
    (inside : n < infinityBits) : PastMiddle q m := by
  have low : magnitude m < magnitude n := magnitude_lt less inside.le
  have high : magnitude (m + 1) < magnitude (n + 1) := magnitude_lt (by omega) inside
  rcases past with above | ⟨middle, -⟩
  · exact .inl (by linarith)
  · exact .inl (by linarith)

/-- What is read as a magnitude goes up at the gap below it, but not at the one above it. -/
theorem RoundsTo.middles {q : ℚ} {n : Nat} (reads : RoundsTo q (n + 1)) :
    PastMiddle q n ∧ ¬ PastMiddle q (n + 1) := by
  have inside := reads.1
  rw [roundsTo_iff inside, Binary.mantissa_mod inside.le] at reads
  rcases reads with ⟨above, below⟩ | ⟨even, above, below⟩
  · refine ⟨.inl above, ?_⟩
    rintro (past | ⟨past, -⟩)
    · exact lt_asymm past below
    · exact below.ne' past
  · refine ⟨above.lt_or_eq.imp_right fun middle => ⟨middle, even⟩, ?_⟩
    rintro (past | ⟨-, even'⟩)
    · exact not_lt.2 below past
    · omega

theorem RoundsTo.eq {q : ℚ} {n b : Nat} (reads : RoundsTo q (n + 1)) (inside : b ≤ infinityBits)
    (low : 0 < b → PastMiddle q (b - 1)) (high : b < infinityBits → ¬ PastMiddle q b) :
    b = n + 1 := by
  obtain ⟨past, stays⟩ := reads.middles
  have known := reads.1
  rcases Nat.lt_trichotomy b (n + 1) with less | same | more
  · refine absurd ?_ (high (by omega))
    obtain before | rfl := Nat.lt_or_eq_of_le (Nat.le_of_lt_succ less)
    · exact past.of_lt before (by omega)
    · exact past
  · exact same
  · refine absurd ?_ stays
    have up := low (by omega)
    obtain before | last := Nat.lt_or_eq_of_le (Nat.le_sub_one_of_lt more)
    · exact up.of_lt before (by omega)
    · exact last ▸ up

/-! ## Places -/

/-- The value of the last place of a mantissa, from the smallest there is. -/
def place (p : Nat) : ℚ := 2 ^ ((p : Int) - 1074)

theorem place_pos (p : Nat) : 0 < place p := zpow_pos (by decide) _

theorem place_add (p k : Nat) : place (p + k) = 2 ^ k * place p := by
  rw [place, place, ← zpow_natCast, ← zpow_add₀ (by decide)]
  congr 1
  push_cast
  ring

theorem place_le {p k : Nat} (before : p ≤ k) : place p ≤ place k :=
  zpow_le_zpow_right₀ (by decide) (by omega)

/-- The magnitude of a mantissa at a place.  A mantissa that is one too long for it counts as the
first one at the next place. -/
theorem magnitude_place {p m : Nat} (small : m ≤ 2 ^ 53) (normal : p = 0 ∨ 2 ^ 52 ≤ m)
    (inside : p * 2 ^ 52 + m ≤ infinityBits) : magnitude (p * 2 ^ 52 + m) = m * place p := by
  rw [infinityBits] at inside
  rcases Nat.lt_or_ge m (2 ^ 52) with low | high
  · obtain rfl : p = 0 := by omega
    rw [Nat.zero_mul, Nat.zero_add, magnitude, Binary.nth_small low]
    rfl
  · rcases Nat.lt_or_ge m (2 ^ 53) with fits | long
    · have split : p * 2 ^ 52 + m = (p + 1) * 2 ^ 52 + (m - 2 ^ 52) := by omega
      have whole : 2 ^ 52 + (m - 2 ^ 52) = m := by omega
      have exponent : ((p + 1 : Nat) : Int) - 1075 = (p : Int) - 1074 := by omega
      rw [split, magnitude, Binary.nth_normal (by omega) (by omega) (by omega), Binary.value,
        Binary.unit, whole, exponent, place]
    · obtain rfl : m = 2 ^ 53 := by omega
      have split : p * 2 ^ 52 + 2 ^ 53 = (p + 2) * 2 ^ 52 + 0 := by omega
      have exponent : ((p + 2 : Nat) : Int) - 1075 = ((p + 1 : Nat) : Int) - 1074 := by omega
      rw [split, magnitude, Binary.nth_normal (by omega) (by omega) (by decide), Binary.value,
        Binary.unit, exponent, ← place, place_add]
      push_cast
      ring

theorem magnitude_infinity : magnitude infinityBits = 2 ^ 53 * place 2045 := by
  have last := magnitude_place (p := 2045) (m := 2 ^ 53) (by decide) (.inr (by decide)) (by decide)
  exact_mod_cast last

theorem RoundsTo.lt_infinity {q : ℚ} {n : Nat} (reads : RoundsTo q (n + 1)) :
    q < magnitude infinityBits := by
  have here : magnitude (n + 1) < magnitude infinityBits := magnitude_lt reads.1 le_rfl
  have next : magnitude (n + 2) ≤ magnitude infinityBits := magnitude_le reads.1 le_rfl
  have below := reads.middles.2
  rw [PastMiddle, not_or, not_lt] at below
  linarith [below.1]

/-- A natural number is the nearest to a value, and even if another one is as near. -/
def IsNearest (v : ℚ) (r : Nat) : Prop :=
  2 * (r : ℚ) - 1 < 2 * v ∧ 2 * v < 2 * r + 1 ∨
    r % 2 = 0 ∧ 2 * (r : ℚ) - 1 ≤ 2 * v ∧ 2 * v ≤ 2 * r + 1

namespace IsNearest

variable {v : ℚ} {p r : Nat} (nearest : IsNearest v r)

include nearest

theorem bounds : 2 * (r : ℚ) - 1 ≤ 2 * v ∧ 2 * v ≤ 2 * r + 1 := by
  rcases nearest with ⟨above, below⟩ | ⟨-, between⟩
  · exact ⟨above.le, below.le⟩
  · exact between

theorem le_of_lt {m : Nat} (less : v < m) : r ≤ m := by
  obtain ⟨above, -⟩ := nearest.bounds
  have twice : ((2 * r : Nat) : ℚ) < (2 * m + 1 : Nat) := by
    push_cast
    linarith
  have twice' : 2 * r < 2 * m + 1 := by exact_mod_cast twice
  omega

theorem le_of_le {m : Nat} (le : (m : ℚ) ≤ v) : m ≤ r := by
  obtain ⟨-, below⟩ := nearest.bounds
  have twice : ((2 * m : Nat) : ℚ) ≤ (2 * r + 1 : Nat) := by
    push_cast
    linarith
  have twice' : 2 * m ≤ 2 * r + 1 := by exact_mod_cast twice
  omega

/-- At a place where there is room for it, the value goes up to the mantissa. -/
theorem past (room : r ≤ 2 ^ 53) (normal : p = 0 ∨ (2 ^ 52 : Nat) ≤ v)
    (inside : p * 2 ^ 52 + r ≤ infinityBits) (positive : 0 < p * 2 ^ 52 + r) :
    PastMiddle (v * place p) (p * 2 ^ 52 + r - 1) := by
  have unit := place_pos p
  have full : p = 0 ∨ 2 ^ 52 ≤ r := normal.imp_right nearest.le_of_le
  have here := magnitude_place room full inside
  rw [PastMiddle, Nat.sub_add_cancel positive]
  by_cases first : p = 0 ∨ 2 ^ 52 < r
  · have split : p * 2 ^ 52 + r - 1 = p * 2 ^ 52 + (r - 1) := by omega
    have before := magnitude_place (p := p) (m := r - 1) (by omega) (by omega) (by omega)
    have middle : ((r - 1 : Nat) : ℚ) * place p + r * place p = (2 * r - 1) * place p := by
      rw [Nat.cast_sub (by omega)]
      push_cast
      ring
    rw [here, split, before, middle, ← mul_assoc, mul_lt_mul_iff_left₀ unit,
      mul_left_inj' unit.ne']
    rcases nearest with ⟨strict, -⟩ | ⟨even, le, -⟩
    · exact .inl strict
    · exact le.lt_or_eq.imp_right fun equal => ⟨equal, by omega⟩
  · -- at a power of two the gap below is smaller, but the value is not in it
    obtain rfl : r = 2 ^ 52 := by omega
    have least : magnitude (p * 2 ^ 52 + 2 ^ 52) ≤ v * place p := by
      rw [here]
      exact mul_le_mul_of_nonneg_right (normal.resolve_left (by omega)) unit.le
    have lower := magnitude_lt (Nat.sub_one_lt positive.ne') inside
    exact .inl (by linarith)

/-- It does not go up from there. -/
theorem stays (room : v < (2 ^ 53 : Nat)) (full : p = 0 ∨ 2 ^ 52 ≤ r)
    (inside : p * 2 ^ 52 + r < infinityBits) : ¬ PastMiddle (v * place p) (p * 2 ^ 52 + r) := by
  have unit := place_pos p
  have fits := nearest.le_of_lt room
  have here := magnitude_place fits full inside.le
  rw [PastMiddle]
  by_cases last : r < 2 ^ 53
  · have next := magnitude_place (p := p) (m := r + 1) last (by omega) (by omega)
    have middle : (r : ℚ) * place p + ((r + 1 : Nat) : ℚ) * place p = (2 * r + 1) * place p := by
      push_cast
      ring
    rw [here, Nat.add_assoc, next, middle, ← mul_assoc, mul_lt_mul_iff_left₀ unit,
      mul_left_inj' unit.ne']
    rintro (past | ⟨equal, even⟩)
    · exact not_lt.2 nearest.bounds.2 past
    · rcases nearest with ⟨-, strict⟩ | ⟨even', -⟩
      · exact strict.ne' equal
      · omega
  · -- the mantissa has been rounded up to one that is too long
    obtain rfl : r = 2 ^ 53 := by omega
    have most : v * place p < magnitude (p * 2 ^ 52 + 2 ^ 53) := by
      rw [here]
      exact mul_lt_mul_of_pos_right room unit
    have upper := magnitude_lt (Nat.lt_succ_self (p * 2 ^ 52 + 2 ^ 53)) inside
    rintro (past | ⟨equal, -⟩)
    · linarith
    · linarith

end IsNearest

theorem RoundsTo.place_le {v : ℚ} {n p : Nat} (reads : RoundsTo (v * place p) (n + 1))
    (normal : p = 0 ∨ (2 ^ 52 : Nat) ≤ v) : p ≤ 2045 := by
  by_contra! late
  have enough : (2 ^ 52 : Nat) ≤ v := normal.resolve_left (by omega)
  have finite := reads.lt_infinity
  have double : place 2046 = 2 ^ 1 * place 2045 := place_add 2045 1
  have beyond : (2 ^ 52 : Nat) * place 2046 ≤ v * place p :=
    mul_le_mul enough (Number.place_le late) (place_pos _).le ((Nat.cast_nonneg _).trans enough)
  rw [magnitude_infinity] at finite
  push_cast at beyond
  linarith

/-- A value is read as the mantissa that is the nearest to it at a place with room for it. -/
theorem RoundsTo.eq_place {v : ℚ} {n p r : Nat} (reads : RoundsTo (v * place p) (n + 1))
    (nearest : IsNearest v r) (room : v < (2 ^ 53 : Nat))
    (normal : p = 0 ∨ (2 ^ 52 : Nat) ≤ v) : p * 2 ^ 52 + r = n + 1 := by
  have early := reads.place_le normal
  have fits := nearest.le_of_lt room
  have inside : p * 2 ^ 52 + r ≤ infinityBits := by
    rw [infinityBits]
    omega
  exact reads.eq inside (nearest.past fits normal inside)
    (nearest.stays room (normal.imp_right nearest.le_of_le))

/-! ## Mantissas with two more bits -/

/-- What a mantissa and the two bits behind it say of a value, in units of its last place. -/
def Represents (em : ExtendedMantissa) (v : ℚ) : Prop :=
  match em.roundBit, em.stickyBit with
  | false, false => v = em.mantissa
  | false, true => (em.mantissa : ℚ) < v ∧ v < em.mantissa + 1 / 2
  | true, false => v = em.mantissa + 1 / 2
  | true, true => (em.mantissa : ℚ) + 1 / 2 < v ∧ v < em.mantissa + 1

namespace Represents

variable {em : ExtendedMantissa} {v : ℚ}

theorem bounds (represents : Represents em v) : (em.mantissa : ℚ) ≤ v ∧ v < em.mantissa + 1 := by
  obtain ⟨m, round, sticky⟩ := em
  cases round <;> cases sticky <;> simp only [Represents] at represents ⊢
  · exact ⟨represents.ge, by linarith⟩
  · exact ⟨represents.1.le, by linarith⟩
  · exact ⟨by linarith, by linarith⟩
  · exact ⟨by linarith, represents.2⟩

/-- The bits tell which of the two neighbours is the nearest. -/
theorem nearest (represents : Represents em v) : IsNearest v em.roundedMantissa := by
  obtain ⟨m, round, sticky⟩ := em
  cases round <;> cases sticky <;> simp only [Represents] at represents
  · have same : ExtendedMantissa.roundedMantissa ⟨m, false, false⟩ = m := rfl
    rw [same]
    exact .inl ⟨by linarith, by linarith⟩
  · have down : ExtendedMantissa.roundedMantissa ⟨m, false, true⟩ = m := rfl
    rw [down]
    exact .inl ⟨by linarith, by linarith⟩
  · have even : ExtendedMantissa.roundedMantissa ⟨m, true, false⟩ = m + m % 2 := rfl
    have below : ((m % 2 : Nat) : ℚ) ≤ 1 := by exact_mod_cast Nat.le_of_lt_succ (m.mod_lt two_pos)
    have above : (0 : ℚ) ≤ (m % 2 : Nat) := Nat.cast_nonneg _
    rw [even]
    refine .inr ⟨by omega, ?_⟩
    push_cast [Nat.cast_add] at below above ⊢
    exact ⟨by linarith, by linarith⟩
  · have up : ExtendedMantissa.roundedMantissa ⟨m, true, true⟩ = m + 1 := rfl
    rw [up]
    refine .inl ?_
    push_cast
    exact ⟨by linarith, by linarith⟩

theorem shiftRightOne (represents : Represents em v) : Represents em.shiftRightOne (v / 2) := by
  obtain ⟨m, round, sticky⟩ := em
  have shifted : ExtendedMantissa.shiftRightOne ⟨m, round, sticky⟩ =
      ⟨m / 2, m % 2 != 0, round || sticky⟩ := rfl
  obtain ⟨h, even | odd⟩ := Nat.even_or_odd' m
  · have half : m / 2 = h := by omega
    have bit : (m % 2 != 0) = false := by simp [even]
    have whole : (m : ℚ) = 2 * h := by exact_mod_cast even
    rw [shifted, half, bit]
    cases round <;> cases sticky <;>
      simp only [Represents, whole, Bool.or_self, Bool.or_true, Bool.or_false] at represents ⊢
    · linarith
    · exact ⟨by linarith, by linarith⟩
    · exact ⟨by linarith, by linarith⟩
    · exact ⟨by linarith, by linarith⟩
  · have half : m / 2 = h := by omega
    have bit : (m % 2 != 0) = true := by simp [odd]
    have whole : (m : ℚ) = 2 * h + 1 := by exact_mod_cast odd
    rw [shifted, half, bit]
    cases round <;> cases sticky <;>
      simp only [Represents, whole, Bool.or_self, Bool.or_true, Bool.or_false] at represents ⊢
    · linarith
    · exact ⟨by linarith, by linarith⟩
    · exact ⟨by linarith, by linarith⟩
    · exact ⟨by linarith, by linarith⟩

/-- Shifting divides, and the bits keep track of it. -/
theorem shiftRight (represents : Represents em v) (k : Nat) :
    Represents (em >>> k) (v / 2 ^ k) := by
  change Represents (k.repeat ExtendedMantissa.shiftRightOne em) _
  induction k with
  | zero => simpa [Nat.repeat] using represents
  | succ k ih =>
      rw [Nat.repeat, pow_succ, ← div_div]
      exact ih.shiftRightOne

end Represents

/-- An integer without a remainder. -/
theorem represents_exact (m : Nat) : Represents (.ofMantissaAndAccuracy m .exact) m := rfl

theorem mantissa_ofMantissaAndAccuracy (m : Nat) (a : Accuracy) :
    (ExtendedMantissa.ofMantissaAndAccuracy m a).mantissa = m := by
  cases a with
  | exact => rfl
  | inexact o => cases o <;> rfl

/-! ## Rounding a mantissa -/

theorem targetExponent_eq (t : Int) : Format.binary64.targetExponent t = max (t - 53) (-1074) :=
  rfl

theorem targetExponent_total (m : Nat) (e : Int) :
    Format.binary64.targetExponent (totalExponent m e) = max (m.log2 + e - 52) (-1074) := by
  rw [targetExponent_eq, totalExponent]
  omega

/-- A mantissa is shifted to a place with room for it, and no further. -/
theorem shiftToTargetExponent_spec {m : Nat} {e : Int} {a : Accuracy} {v : ℚ}
    (represents : Represents (.ofMantissaAndAccuracy m a) v)
    (fine : e ≤ Format.binary64.targetExponent (totalExponent m e)) :
    ∃ (em : ExtendedMantissa) (p : Nat) (v' : ℚ),
      shiftToTargetExponent .binary64 m e a = (em, (p : Int) - 1074) ∧
      v * 2 ^ e = v' * place p ∧ Represents em v' ∧ v' < (2 ^ 53 : Nat) ∧
      (p = 0 ∨ (2 ^ 52 : Nat) ≤ v') := by
  obtain ⟨low, high⟩ := represents.bounds
  rw [mantissa_ofMantissaAndAccuracy] at low high
  have target := targetExponent_total m e
  obtain ⟨k, far⟩ := Int.eq_ofNat_of_zero_le (Int.sub_nonneg.2 fine)
  obtain ⟨p, at_p⟩ := Int.eq_ofNat_of_zero_le
    (show 0 ≤ Format.binary64.targetExponent (totalExponent m e) + 1074 by omega)
  refine ⟨ExtendedMantissa.ofMantissaAndAccuracy m a >>> k, p, v / 2 ^ k, ?_, ?_,
    represents.shiftRight k, ?_, ?_⟩
  · rw [shiftToTargetExponent, UnpackedFloat.shiftToExponent, far]
    simp only [Int.toNat_natCast]
    congr 1
    omega
  · have exponent : e + k = p - 1074 := by omega
    rw [place, ← exponent, zpow_add₀ (by decide), zpow_natCast]
    field_simp
  · have room : m + 1 ≤ 2 ^ 53 * 2 ^ k := by
      rw [← pow_add]
      exact Nat.lt_log2_self.trans_le (Nat.pow_le_pow_right two_pos (by omega))
    rw [div_lt_iff₀ (by positivity)]
    refine high.trans_le ?_
    exact_mod_cast room
  · by_cases first : p = 0
    · exact .inl first
    · have nonzero : m ≠ 0 := by
        rintro rfl
        rw [Nat.log2_zero] at target
        omega
      have enough : 2 ^ 52 * 2 ^ k ≤ m := by
        rw [← pow_add, show 52 + k = m.log2 by omega]
        exact Nat.log2_self_le nonzero
      right
      rw [le_div_iff₀ (by positivity)]
      refine le_trans ?_ low
      exact_mod_cast enough

/-- A mantissa that is rounded up to one that is too long goes one place further. -/
theorem shiftToTargetExponent_again {p r : Nat} (fits : r ≤ 2 ^ 53) :
    shiftToTargetExponent .binary64 r ((p : Int) - 1074) .exact =
      if r < 2 ^ 53 then (⟨r, false, false⟩, (p : Int) - 1074)
      else (⟨2 ^ 52, false, false⟩, ((p + 1 : Nat) : Int) - 1074) := by
  have target := targetExponent_total r ((p : Int) - 1074)
  rw [shiftToTargetExponent, UnpackedFloat.shiftToExponent]
  split
  · rename_i less
    have short : r.log2 ≤ 52 := by
      rcases Nat.eq_zero_or_pos r with rfl | positive
      · decide
      · exact Nat.le_of_lt_succ ((Nat.log2_lt positive.ne').2 less)
    have still : (Format.binary64.targetExponent (totalExponent r ((p : Int) - 1074)) -
        ((p : Int) - 1074)).toNat = 0 := by omega
    rw [still]
    simp only [Nat.cast_zero, Int.add_zero]
    rfl
  · obtain rfl : r = 2 ^ 53 := by omega
    rw [Nat.log2_two_pow] at target
    have once : (Format.binary64.targetExponent (totalExponent (2 ^ 53) ((p : Int) - 1074)) -
        ((p : Int) - 1074)).toNat = 1 := by omega
    rw [once]
    refine Prod.ext rfl ?_
    push_cast
    ring

/-! ## Bits -/

/-- The bits of a sign. -/
def signBits (s : Sign) : Nat := s.toBitVec.toNat * 2 ^ 63

theorem toNat_packComponents (s : Sign) (e : BitVec 11) (f : BitVec 52) :
    (packComponents .binary64 s e f).toNat = signBits s + (e.toNat * 2 ^ 52 + f.toNat) := by
  rw [packComponents, BitVec.toNat_append, BitVec.toNat_append,
    ← Nat.shiftLeft_add_eq_or_of_lt f.isLt, ← Nat.shiftLeft_add_eq_or_of_lt e.isLt,
    Nat.shiftLeft_eq, Nat.shiftLeft_eq, signBits]
  ring

theorem toBits_pack (s : Sign) {p m : Nat} (positive : 0 < m) (fits : m < 2 ^ 53)
    (normal : p = 0 ∨ 2 ^ 52 ≤ m) (finite : p * 2 ^ 52 + m < infinityBits) :
    (Float.Model.pack (.finite s m ((p : Int) - 1074) positive)).toBits.toNat =
      signBits s + (p * 2 ^ 52 + m) := by
  rw [infinityBits] at finite
  have exponent : (((p : Int) - 1074) + Format.binary64.exponentBias +
      Format.binary64.mantissaBitsWithoutImplicit).toNat = p + 1 := by
    change ((p : Int) - 1074 + 1023 + 52).toNat = p + 1
    omega
  change (UnpackedFloat.pack .binary64 (.finite s m ((p : Int) - 1074) positive)).toNat = _
  simp only [UnpackedFloat.pack, exponent]
  rw [if_neg (by omega)]
  have whole : m.log2 + 1 = Format.binary64.mantissaBits ↔ 2 ^ 52 ≤ m := by
    change m.log2 + 1 = 53 ↔ _
    have upper := (Nat.log2_lt positive.ne').2 fits
    rw [← Nat.le_log2 positive.ne']
    omega
  split
  · rename_i full
    have full := whole.1 full
    rw [toNat_packComponents, BitVec.toNat_ofNat, BitVec.toNat_ofNat]
    omega
  · rename_i short
    have short := mt whole.2 short
    rw [toNat_packComponents, BitVec.toNat_ofNat, BitVec.toNat_ofNat]
    omega

theorem ext_toBits {x y : Float} (same : x.toBits.toNat = y.toBits.toNat) : x = y :=
  Float.toBits_inj.1 (UInt64.toNat_inj.1 same)

section Fields

variable (x : Float)

theorem signBits_unpackSign :
    signBits (.ofBitVec (@unpackSign .binary64 x.toModel.toBits.toBitVec)) =
      x.toBits.toNat / 2 ^ 63 * 2 ^ 63 := by
  have word : x.toBits.toNat < 2 ^ 64 := x.toBits.toNat_lt
  rw [signBits, Sign.toBitVec_ofBitVec]
  change x.toBits.toNat >>> 63 % 2 ^ 1 * 2 ^ 63 = _
  rw [Nat.shiftRight_eq_div_pow]
  omega

theorem toNat_unpackExponent :
    (@unpackExponent .binary64 x.toModel.toBits.toBitVec).toNat =
      x.toBits.toNat / 2 ^ 52 % 2 ^ 11 := by
  change x.toBits.toNat >>> 52 % 2 ^ 11 = _
  rw [Nat.shiftRight_eq_div_pow]

theorem toNat_unpackMantissa :
    (@unpackMantissa .binary64 x.toModel.toBits.toBitVec).toNat = x.toBits.toNat % 2 ^ 52 := by
  change x.toBits.toNat >>> 0 % 2 ^ 52 = _
  rw [Nat.shiftRight_zero]

end Fields

/-- What kind of number a double is, and its bits. -/
inductive Kind (x : Float) : Prop
  /-- There is one double that is no number. -/
  | nan (unpack : x.toModel.unpack = .notANumber) (only : x = 0.0 / 0.0)
  | infinite (s : Sign) (unpack : x.toModel.unpack = .infinity s)
      (bits : x.toBits.toNat = signBits s + infinityBits)
  | zero (s : Sign) (unpack : x.toModel.unpack = .zero s) (bits : x.toBits.toNat = signBits s)
  | finite (s : Sign) (m p : Nat) (nonzero : 0 < m)
      (unpack : x.toModel.unpack = .finite s m ((p : Int) - 1074) nonzero) (fits : m < 2 ^ 53)
      (normal : p = 0 ∨ 2 ^ 52 ≤ m) (inside : p * 2 ^ 52 + m < infinityBits)
      (bits : x.toBits.toNat = signBits s + (p * 2 ^ 52 + m))

theorem Kind.of (x : Float) : Kind x := by
  obtain ⟨u, unpack⟩ : ∃ u, u = x.toModel.unpack := ⟨_, rfl⟩
  have sign := signBits_unpackSign x
  have exponent := toNat_unpackExponent x
  have fraction := toNat_unpackMantissa x
  have bias : (Format.binary64.exponentBias : Int) = 1023 := rfl
  have fields := unpack
  rw [Float.Model.unpack, UnpackedFloat.unpack] at fields
  simp only at fields
  split at fields
  · rename_i last
    have all : x.toBits.toNat / 2 ^ 52 % 2 ^ 11 = 2047 := by
      rw [← exponent, last]
      rfl
    split at fields
    · rename_i none
      rw [none] at fraction
      change 0 = _ at fraction
      refine .infinite _ (unpack.symm.trans fields) ?_
      rw [sign, infinityBits]
      omega
    · rename_i some
      refine .nan (unpack.symm.trans fields) (ext_toBits ?_)
      change x.toModel.toBits.toBitVec.toNat = _
      rw [x.toModel.valid.eq_packedNaN last some]
      decide
  · split at fields
    · rename_i first
      have small : x.toBits.toNat / 2 ^ 52 % 2 ^ 11 = 0 := by
        rw [← exponent, first]
        rfl
      split at fields
      · rename_i none
        rw [none] at fraction
        change 0 = _ at fraction
        refine .zero _ (unpack.symm.trans fields) ?_
        rw [sign]
        omega
      · rename_i some
        have nonzero : 0 < x.toBits.toNat % 2 ^ 52 := by
          rw [← fraction]
          exact Nat.pos_of_ne_zero fun zero => some (BitVec.eq_of_toNat_eq zero)
        refine .finite _ _ 0 nonzero (unpack.symm.trans (fields.trans ?_)) (by omega) (.inl rfl)
          (by rw [infinityBits]; omega) (by rw [sign]; omega)
        simp only [exponent, fraction, bias, small]
        rfl
    · rename_i last first
      have later : 0 < x.toBits.toNat / 2 ^ 52 % 2 ^ 11 := by
        rw [← exponent]
        exact Nat.pos_of_ne_zero fun zero => first (BitVec.eq_of_toNat_eq zero)
      have finite : x.toBits.toNat / 2 ^ 52 % 2 ^ 11 ≠ 2047 := by
        rw [← exponent]
        exact fun all => last (BitVec.eq_of_toNat_eq all)
      have whole : (1#1 ++ @unpackMantissa .binary64 x.toModel.toBits.toBitVec).toNat =
          2 ^ 52 + x.toBits.toNat % 2 ^ 52 := by
        rw [BitVec.toNat_append, ← Nat.shiftLeft_add_eq_or_of_lt (BitVec.isLt _), fraction]
        rfl
      refine .finite _ (2 ^ 52 + x.toBits.toNat % 2 ^ 52) (x.toBits.toNat / 2 ^ 52 % 2 ^ 11 - 1)
        (by omega) (unpack.symm.trans (fields.trans ?_)) (by omega) (.inr (by omega))
        (by rw [infinityBits]; omega) (by rw [sign]; omega)
      simp only [exponent, whole, bias]
      congr 1
      omega

/-! ## Rounding is right -/

/-- A mantissa with its bits is rounded to the nearest magnitude. -/
theorem pack_roundWithAccuracy {v : ℚ} {n m : Nat} {e : Int} {a : Accuracy}
    (reads : RoundsTo (v * 2 ^ e) (n + 1)) (represents : Represents (.ofMantissaAndAccuracy m a) v)
    (fine : e ≤ Format.binary64.targetExponent (totalExponent m e)) :
    (Float.Model.pack (roundWithAccuracy .binary64 .positive m e a)).toBits.toNat = n + 1 := by
  obtain ⟨em, p, v', shifted, value, represents', room, normal⟩ :=
    shiftToTargetExponent_spec represents fine
  rw [value] at reads
  have fits := represents'.nearest.le_of_lt room
  have bits := reads.eq_place represents'.nearest room normal
  have full : p = 0 ∨ 2 ^ 52 ≤ em.roundedMantissa := normal.imp_right represents'.nearest.le_of_le
  have finite := reads.1
  have positive : 0 < em.roundedMantissa := by omega
  rw [roundWithAccuracy]
  simp only [shifted, shiftToTargetExponent_again fits]
  by_cases short : em.roundedMantissa < 2 ^ 53
  · simp only [if_pos short, dif_neg positive.ne']
    rw [toBits_pack .positive positive short full (bits ▸ finite), bits]
    exact Nat.zero_add _
  · have long : em.roundedMantissa = 2 ^ 53 := by omega
    have next : (p + 1) * 2 ^ 52 + 2 ^ 52 = n + 1 := by
      rw [← bits, long]
      ring
    have inside : (p + 1) * 2 ^ 52 + 2 ^ 52 < infinityBits := next.symm ▸ finite
    simp only [if_neg short]
    rw [dif_neg (by decide),
      toBits_pack .positive (by decide) (by decide) (.inr le_rfl) inside, next]
    exact Nat.zero_add _

/-- A product is rounded to the nearest magnitude. -/
theorem pack_mul {m m' n : Nat} {e e' : Int} (positive : 0 < m) (positive' : 0 < m')
    (reads : RoundsTo ((m * 2 ^ e) * (m' * 2 ^ e')) (n + 1))
    (fine : e + e' ≤ Format.binary64.targetExponent (totalExponent (m * m') (e + e'))) :
    (Float.Model.pack (UnpackedFloat.mul .binary64 (.finite .positive m e positive)
      (.finite .positive m' e' positive'))).toBits.toNat = n + 1 := by
  refine pack_roundWithAccuracy ?_ (represents_exact _) fine
  rw [zpow_add₀ (by decide)]
  push_cast
  convert reads using 1
  ring

/-- The remainder of a division tells how far the quotient is from the next one. -/
theorem represents_fraction {num den : Nat} (positive : 0 < den) :
    Represents (.ofMantissaAndAccuracy (num / den)
      (UnpackedFloat.accuracyOfFraction (num % den) den)) (num / den) := by
  have unit : (0 : ℚ) < den := Nat.cast_pos.2 positive
  have split : (num : ℚ) / den = (num / den : Nat) + (num % den : Nat) / den := by
    rw [div_eq_iff unit.ne', add_mul, div_mul_cancel₀ _ unit.ne']
    exact_mod_cast (Nat.div_add_mod' num den).symm
  have proper : ((num % den : Nat) : ℚ) / den < 1 := by
    rw [div_lt_one₀ unit]
    exact_mod_cast Nat.mod_lt num positive
  rw [split, UnpackedFloat.accuracyOfFraction]
  generalize num / den = whole
  generalize num % den = rest at *
  by_cases exact : rest = 0
  · rw [if_pos exact, exact]
    simpa using represents_exact whole
  · have some : (0 : ℚ) < rest / den := div_pos (Nat.cast_pos.2 (Nat.pos_of_ne_zero exact)) unit
    rw [if_neg exact]
    rcases lt_trichotomy (2 * rest) den with less | equal | more
    · rw [Nat.compare_eq_lt.2 less]
      have half : (rest : ℚ) / den < 1 / 2 := by
        rw [div_lt_div_iff₀ unit two_pos]
        exact_mod_cast (by omega : rest * 2 < 1 * den)
      have low : (whole : ℚ) < whole + rest / den := by linarith
      have high : (whole : ℚ) + rest / den < whole + 1 / 2 := by linarith
      exact ⟨low, high⟩
    · rw [Nat.compare_eq_eq.2 equal]
      have half : (rest : ℚ) / den = 1 / 2 := by
        rw [div_eq_div_iff unit.ne' two_ne_zero]
        exact_mod_cast (by omega : rest * 2 = 1 * den)
      rw [half]
      rfl
    · rw [Nat.compare_eq_gt.2 more]
      have half : (1 : ℚ) / 2 < rest / den := by
        rw [div_lt_div_iff₀ two_pos unit]
        exact_mod_cast (by omega : 1 * den < rest * 2)
      have low : (whole : ℚ) + 1 / 2 < whole + rest / den := by linarith
      have high : (whole : ℚ) + rest / den < whole + 1 := by linarith
      exact ⟨low, high⟩

/-- The length of a shifted mantissa. -/
theorem log2_add_le {m : Nat} (nonzero : m ≠ 0) (k : Nat) : m.log2 + k ≤ (m * 2 ^ k).log2 := by
  rw [Nat.le_log2 (Nat.mul_pos (Nat.pos_of_ne_zero nonzero) (Nat.two_pow_pos k)).ne', pow_add]
  exact Nat.mul_le_mul_right _ (Nat.log2_self_le nonzero)

/-- The length of a quotient. -/
theorem log2_le_log2_div {m d : Nat} (nonzero : m ≠ 0) (positive : 0 < d) :
    m.log2 ≤ (m / d).log2 + d.log2 + 1 := by
  have less : m < 2 ^ ((m / d).log2 + d.log2 + 2) :=
    calc m < d * (m / d + 1) := Nat.lt_mul_div_succ m positive
      _ ≤ d * 2 ^ ((m / d).log2 + 1) := Nat.mul_le_mul_left _ Nat.lt_log2_self
      _ ≤ 2 ^ (d.log2 + 1) * 2 ^ ((m / d).log2 + 1) := Nat.mul_le_mul_right _ Nat.lt_log2_self.le
      _ = 2 ^ ((m / d).log2 + d.log2 + 2) := by ring
  exact Nat.le_of_lt_succ ((Nat.log2_lt nonzero).2 less)

/-- A quotient is rounded to the nearest magnitude. -/
theorem pack_div {m m' n : Nat} {e e' : Int} (positive : 0 < m) (positive' : 0 < m')
    (reads : RoundsTo ((m * 2 ^ e) / (m' * 2 ^ e')) (n + 1)) :
    (Float.Model.pack (UnpackedFloat.div .binary64 (.finite .positive m e positive)
      (.finite .positive m' e' positive'))).toBits.toNat = n + 1 := by
  -- the exponent of the quotient, and how far the dividend is shifted for it
  obtain ⟨t, target⟩ : ∃ t, t = min (e - e') (Format.binary64.targetExponent
      (totalExponent m e - totalExponent m' e')) := ⟨_, rfl⟩
  obtain ⟨k, shift⟩ := Int.eq_ofNat_of_zero_le (show 0 ≤ e - e' - t by omega)
  have shift' : (e - e' - t).toNat = k := by omega
  refine pack_roundWithAccuracy ?_ (represents_fraction positive') ?_
  · rw [← target, shift', Nat.shiftLeft_eq]
    convert reads using 1
    have exponent : e = e' + k + t := by omega
    rw [exponent, zpow_add₀ (by decide), zpow_add₀ (by decide), zpow_natCast]
    push_cast
    field_simp
  · have long := log2_add_le positive.ne' k
    have quotient := log2_le_log2_div (m := m * 2 ^ k) (by positivity) positive'
    rw [← target, shift', Nat.shiftLeft_eq, targetExponent_total]
    rw [targetExponent_eq, totalExponent, totalExponent] at target
    omega

/-- An integer times a power of two is rounded to the nearest magnitude. -/
theorem pack_round {m n : Nat} {e : Int} (positive : 0 < m)
    (reads : RoundsTo (m * 2 ^ e) (n + 1)) :
    (Float.Model.pack (UnpackedFloat.round .binary64 .positive m e)).toBits.toNat = n + 1 := by
  obtain ⟨k, shift⟩ : ∃ k, k = (e - Format.binary64.targetExponent (totalExponent m e)).toNat :=
    ⟨_, rfl⟩
  simp only [UnpackedFloat.round, UnpackedFloat.decreaseExponent, ← shift, Nat.shiftLeft_eq]
  refine pack_roundWithAccuracy ?_ (represents_exact _) ?_
  · convert reads using 1
    rw [zpow_sub₀ (by decide), zpow_natCast]
    push_cast
    field_simp
  · have long := log2_add_le positive.ne' k
    rw [targetExponent_total] at shift ⊢
    omega

/-! ## Doubles -/

/-- A double that is positive and finite. -/
structure IsPositive (x : Float) : Prop where
  positive : 0 < x.toBits.toNat
  finite : x.toBits.toNat < infinityBits

section Arithmetic

variable {x y : Float} {n : Nat} (first : IsPositive x) (second : IsPositive y)

include first

theorem IsPositive.unpack : ∃ (m p : Nat) (nonzero : 0 < m),
    x.toModel.unpack = .finite .positive m ((p : Int) - 1074) nonzero ∧ m < 2 ^ 53 ∧
    (p = 0 ∨ 2 ^ 52 ≤ m) ∧ x.toBits.toNat = p * 2 ^ 52 + m := by
  obtain ⟨positive, finite⟩ := first
  have minus : signBits .negative = 2 ^ 63 := rfl
  have plus : signBits .positive = 0 := rfl
  rw [infinityBits] at finite
  cases Kind.of x with
  | nan _ only =>
      subst only
      exact absurd finite (by decide)
  | infinite s _ bits =>
      rw [infinityBits] at bits
      omega
  | zero s _ bits => cases s <;> omega
  | finite s m p nonzero unpack fits normal inside bits =>
      cases s with
      | negative => omega
      | positive => exact ⟨m, p, nonzero, unpack, fits, normal, by omega⟩

theorem toBits_neg : (-x).toBits.toNat = 2 ^ 63 + x.toBits.toNat := by
  obtain ⟨m, p, nonzero, unpack, fits, normal, bits⟩ := first.unpack
  have finite := first.finite
  change (Float.Model.pack (UnpackedFloat.neg x.toModel.unpack)).toBits.toNat = _
  rw [unpack]
  rw [bits] at finite ⊢
  exact toBits_pack .negative nonzero fits normal finite

theorem IsPositive.magnitude_eq : ∃ (m p : Nat) (nonzero : 0 < m),
    x.toModel.unpack = .finite .positive m ((p : Int) - 1074) nonzero ∧ (p = 0 ∨ 2 ^ 52 ≤ m) ∧
    magnitude x.toBits.toNat = m * 2 ^ ((p : Int) - 1074) := by
  obtain ⟨m, p, nonzero, unpack, fits, normal, bits⟩ := first.unpack
  have finite := first.finite
  refine ⟨m, p, nonzero, unpack, normal, ?_⟩
  rw [bits] at finite ⊢
  exact magnitude_place fits.le normal finite.le

include second

theorem toBits_mul
    (reads : RoundsTo (magnitude x.toBits.toNat * magnitude y.toBits.toNat) (n + 1)) :
    (x * y).toBits.toNat = n + 1 := by
  obtain ⟨m, p, nonzero, unpack, normal, value⟩ := first.magnitude_eq
  obtain ⟨m', p', nonzero', unpack', normal', value'⟩ := second.magnitude_eq
  have long : 52 ≤ (m * m').log2 ∨ p = 0 ∧ p' = 0 := by
    rw [Nat.le_log2 (Nat.mul_pos nonzero nonzero').ne']
    rcases normal with low | full
    · rcases normal' with low' | full'
      · exact .inr ⟨low, low'⟩
      · exact .inl (full'.trans (Nat.le_mul_of_pos_left _ nonzero))
    · exact .inl (full.trans (Nat.le_mul_of_pos_right _ nonzero'))
  change (Float.Model.pack
    (UnpackedFloat.mul .binary64 x.toModel.unpack y.toModel.unpack)).toBits.toNat = _
  rw [unpack, unpack']
  refine pack_mul nonzero nonzero' ?_ ?_
  · rwa [← value, ← value']
  · rw [targetExponent_total]
    omega

theorem toBits_div
    (reads : RoundsTo (magnitude x.toBits.toNat / magnitude y.toBits.toNat) (n + 1)) :
    (x / y).toBits.toNat = n + 1 := by
  obtain ⟨m, p, nonzero, unpack, -, value⟩ := first.magnitude_eq
  obtain ⟨m', p', nonzero', unpack', -, value'⟩ := second.magnitude_eq
  change (Float.Model.pack
    (UnpackedFloat.div .binary64 x.toModel.unpack y.toModel.unpack)).toBits.toNat = _
  rw [unpack, unpack']
  refine pack_div nonzero nonzero' ?_
  rwa [← value, ← value']

end Arithmetic

/-- The magnitude of an integer that has room in a mantissa. -/
theorem exists_magnitude_eq {m : Nat} (positive : 0 < m) (fits : m < 2 ^ 53) :
    ∃ n, n + 1 < infinityBits ∧ magnitude (n + 1) = m := by
  have short : m.log2 < 53 := (Nat.log2_lt positive.ne').2 fits
  obtain ⟨k, whole⟩ := Nat.exists_eq_add_of_le (Nat.le_of_lt_succ short)
  have low : 2 ^ 52 ≤ m * 2 ^ k :=
    calc 2 ^ 52 = 2 ^ m.log2 * 2 ^ k := by rw [← pow_add, whole]
      _ ≤ m * 2 ^ k := Nat.mul_le_mul_right _ (Nat.log2_self_le positive.ne')
  have high : m * 2 ^ k < 2 ^ 53 :=
    calc m * 2 ^ k < 2 ^ (m.log2 + 1) * 2 ^ k :=
          Nat.mul_lt_mul_of_pos_right Nat.lt_log2_self (Nat.two_pow_pos k)
      _ = 2 ^ 53 := by rw [← pow_add, Nat.add_right_comm, ← whole]
  have inside : (m.log2 + 1022) * 2 ^ 52 + m * 2 ^ k < infinityBits := by
    rw [infinityBits]
    omega
  have unit : 2 ^ k * place (m.log2 + 1022) = 1 := by
    have exponent : (k : Int) + ((m.log2 + 1022 : Nat) - 1074) = 0 := by omega
    rw [place, ← zpow_natCast, ← zpow_add₀ (by decide), exponent, zpow_zero]
  have value : magnitude ((m.log2 + 1022) * 2 ^ 52 + m * 2 ^ k) = m := by
    rw [magnitude_place high.le (.inr low) inside.le, Nat.cast_mul, mul_assoc, Nat.cast_pow,
      Nat.cast_ofNat, unit, mul_one]
  obtain ⟨n, bits⟩ := Nat.exists_eq_succ_of_ne_zero
    (show (m.log2 + 1022) * 2 ^ 52 + m * 2 ^ k ≠ 0 by omega)
  rw [bits] at inside value
  exact ⟨n, inside, value⟩

/-- Such an integer is a double. -/
theorem toFloat_exact {m : Nat} (positive : 0 < m) (fits : m < 2 ^ 53) :
    IsPositive m.toUInt64.toFloat ∧ magnitude m.toUInt64.toFloat.toBits.toNat = m := by
  obtain ⟨n, inside, value⟩ := exists_magnitude_eq positive fits
  have word : m.toUInt64.toNat = m := by
    rw [Nat.toUInt64, UInt64.toNat_ofNat']
    omega
  have reads := roundsTo_magnitude inside
  have rounded : m.toUInt64.toFloat.toBits.toNat = n + 1 := by
    change (Float.Model.pack
      (UnpackedFloat.normalize .binary64 (m.toUInt64.toNat : Int) 0 .positive)).toBits.toNat = _
    rw [word, UnpackedFloat.normalize, Int.compare_eq_gt.2 (by omega)]
    refine pack_round positive ?_
    rwa [Int.toNat_natCast, zpow_zero, mul_one, ← value]
  rw [rounded]
  exact ⟨⟨rounded ▸ n.succ_pos, rounded ▸ inside⟩, value⟩

theorem powers_of_table : ∀ e : Fin Float.exactlyRepresentablePowersOfTen.size,
    0 < Float.exactlyRepresentablePowersOfTen[e].toBits.toNat ∧
    Float.exactlyRepresentablePowersOfTen[e].toBits.toNat < infinityBits ∧
    (Binary.nth Float.exactlyRepresentablePowersOfTen[e].toBits.toNat).toNat? =
      some (10 ^ e.val) := by
  decide +kernel

/-- The powers of ten that are doubles. -/
theorem power_exact {e : Nat} (inside : e < Float.exactlyRepresentablePowersOfTen.size) :
    IsPositive Float.exactlyRepresentablePowersOfTen[e] ∧
      magnitude Float.exactlyRepresentablePowersOfTen[e].toBits.toNat = (10 ^ e : Nat) := by
  obtain ⟨positive, finite, value⟩ := powers_of_table ⟨e, inside⟩
  exact ⟨⟨positive, finite⟩, (Binary.toNat?_eq_some_iff _ _).1 value⟩

/-! ## Decimals -/

/-- A decimal as a product or a quotient of integers. -/
theorem Decimal.value_eq (d : Decimal) :
    d.value = if d.exponent < 0 then (d.digits : ℚ) / (10 ^ d.exponent.natAbs : Nat)
      else d.digits * (10 ^ d.exponent.natAbs : Nat) := by
  rw [value, Nat.cast_pow, Nat.cast_ofNat, ← zpow_natCast]
  split
  · rw [div_eq_mul_inv, ← zpow_neg]
    congr 2
    omega
  · congr 2
    omega

/-- What is read as a double is not beyond the largest. -/
theorem RoundsTo.exponent_le {d : Decimal} {n : Nat} (reads : RoundsTo d.value (n + 1)) :
    d.exponent ≤ 2048 := by
  by_contra! large
  have least : (1 : ℚ) ≤ d.digits := by exact_mod_cast reads.digits_pos
  have power : (2 : ℚ) ^ d.exponent ≤ 10 ^ d.exponent :=
    zpow_le_zpow_left₀ (by omega) (by decide) (by decide)
  have infinity : magnitude infinityBits = 2 ^ (1024 : Int) := by
    rw [magnitude_infinity, place, ← zpow_natCast, ← zpow_add₀ (by decide)]
    rfl
  have beyond : magnitude infinityBits ≤ d.value :=
    calc magnitude infinityBits = 2 ^ (1024 : Int) := infinity
      _ ≤ 2 ^ d.exponent := zpow_le_zpow_right₀ (by decide) (by omega)
      _ ≤ 10 ^ d.exponent := power
      _ ≤ d.digits * 10 ^ d.exponent := le_mul_of_one_le_left (zpow_pos (by decide) _).le least
  exact not_le.2 reads.lt_infinity beyond

/-- It is not below the smallest. -/
theorem RoundsTo.le_exponent {d : Decimal} {n : Nat} (reads : RoundsTo d.value (n + 1)) :
    -(2048 + (d.digits.log2 : Int)) ≤ d.exponent := by
  by_contra! small
  have first : magnitude 1 = place 0 := by
    have value := magnitude_place (p := 0) (m := 1) (by decide) (.inl rfl) (by decide)
    rwa [Nat.cast_one, one_mul] at value
  have least : place 0 ≤ 2 * d.value := by
    have here : magnitude 1 ≤ magnitude (n + 1) := magnitude_le (by omega) reads.1.le
    have before : magnitude 0 ≤ magnitude n := magnitude_le n.zero_le (by have := reads.1; omega)
    rw [magnitude_zero] at before
    rcases reads.middles.1 with past | ⟨past, -⟩
    · linarith
    · linarith
  have power : (10 : ℚ) ^ d.exponent ≤ 2 ^ d.exponent := by
    obtain ⟨k, exponent⟩ := Int.exists_eq_neg_ofNat (show d.exponent ≤ 0 by omega)
    rw [exponent, zpow_neg, zpow_neg, zpow_natCast, zpow_natCast]
    exact inv_anti₀ (by positivity) (pow_le_pow_left₀ (by decide) (by decide) k)
  have digits : (d.digits : ℚ) ≤ 2 ^ ((d.digits.log2 : Int) + 1) := by
    have less : d.digits ≤ 2 ^ (d.digits.log2 + 1) := Nat.lt_log2_self.le
    exact_mod_cast less
  have below : 2 * d.value < place 0 :=
    calc 2 * d.value = 2 * (d.digits * 10 ^ d.exponent) := rfl
      _ ≤ 2 * (2 ^ ((d.digits.log2 : Int) + 1) * 2 ^ d.exponent) := by
          gcongr
      _ = 2 ^ ((d.digits.log2 : Int) + 2 + d.exponent) := by
          rw [← zpow_add₀ (by decide), ← zpow_one_add₀ (by decide)]
          congr 1
          ring
      _ < place 0 := zpow_lt_zpow_right₀ (by decide) (by omega)
  exact not_le.2 below least

/-- A decimal is rounded to the nearest magnitude, with as many digits as it takes. -/
theorem pack_ofScientific {d : Decimal} {n : Nat} (reads : RoundsTo d.value (n + 1)) :
    (Float.Model.pack
      (UnpackedFloat.ofScientific .binary64 d.digits d.exponent)).toBits.toNat = n + 1 := by
  have positive := reads.digits_pos
  have high : ¬ d.exponent > 2 ^ Format.binary64.exponentBits := not_lt.2 reads.exponent_le
  have low : ¬ d.exponent < -(2 ^ Format.binary64.exponentBits + (d.digits.log2 : Int)) :=
    not_lt.2 reads.le_exponent
  have bits : Format.binary64.mantissaBits = 53 := rfl
  rw [Decimal.value_eq] at reads
  rw [UnpackedFloat.ofScientific, dif_neg positive.ne', if_neg high, if_neg low]
  split
  · have power : d.exponent.toNat = d.exponent.natAbs := by omega
    rw [if_neg (by omega), ← power] at reads
    refine pack_mul _ _ ?_ ?_
    · rwa [bits, Nat.shiftLeft_eq, Nat.cast_mul, Nat.cast_pow 2, Nat.cast_ofNat, zpow_neg,
        zpow_natCast, mul_inv_cancel_right₀ (by positivity), zpow_zero, mul_one]
    · have long : 53 ≤ (d.digits * 2 ^ 53 * 10 ^ d.exponent.toNat).log2 := by
        rw [Nat.le_log2 (by positivity), mul_right_comm]
        exact Nat.le_mul_of_pos_left _ (by positivity)
      rw [targetExponent_total, bits, Nat.shiftLeft_eq]
      omega
  · have power : (-d.exponent).toNat = d.exponent.natAbs := by omega
    rw [if_pos (by omega), ← power] at reads
    refine pack_div _ _ ?_
    simpa using reads

/-- An exponent from its sign and its size. -/
theorem signed_natAbs (e : Int) :
    (if decide (e < 0) then Int.negOfNat e.natAbs else Int.ofNat e.natAbs) = e := by
  split
  · rename_i negative
    rw [decide_eq_true_eq] at negative
    rw [Int.negOfNat_eq, Int.ofNat_eq_natCast]
    omega
  · rename_i other
    rw [decide_eq_true_eq] at other
    rw [Int.ofNat_eq_natCast]
    omega

/-- A decimal is read as the nearest double. -/
theorem toBits_nearest {d : Decimal} {n : Nat} (reads : RoundsTo d.value (n + 1)) :
    (nearest d.digits d.exponent).toBits.toNat = n + 1 := by
  rw [nearest, Float.ofScientific]
  split
  · -- a double is multiplied with, or divided by, a power of ten that is a double
    rename_i fast
    have inside : d.exponent.natAbs < Float.exactlyRepresentablePowersOfTen.size :=
      Nat.lt_succ_of_le fast.2
    obtain ⟨integer, value⟩ := toFloat_exact reads.digits_pos fast.1
    obtain ⟨power, value'⟩ := power_exact inside
    rw [Decimal.value_eq, ← value, ← value'] at reads
    by_cases negative : d.exponent < 0
    · rw [if_pos negative] at reads
      simp only [decide_eq_true negative, if_true]
      exact toBits_div integer power reads
    · rw [if_neg negative] at reads
      simp only [decide_eq_false negative, Bool.false_eq_true, if_false]
      exact toBits_mul integer power reads
  · simp only [signed_natAbs]
    exact pack_ofScientific reads

end LiveTemplates.Number
