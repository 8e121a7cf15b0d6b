/-
# LiveTemplates.Proofs.Number.Shortest -- the fewest digits that identify a double

Among all decimals that are read as a magnitude, one with the fewest digits is taken, and of
these a nearest one (`IsShortest`).

The search takes the power of ten above the magnitude and goes through the grids below it, which
part the powers of ten into 1, 2, … digits.  On each grid only the two neighbours of the magnitude
matter, since what is read as it is an interval around it.  A decimal with so many digits that is
read lies on the grid or below the power of ten that lies on all of them; and the 17th grid is so
fine that one of the neighbours is always read.

* `Binary.scale_spec`: the power of ten above a magnitude;
* `Binary.onGrid_eq_none_iff`, `Binary.onGrid_spec`: what is found on one grid;
* `Binary.shortest_spec`: what the search finds is shortest, for every magnitude.
-/
import LiveTemplates.Proofs.Number.Magnitudes

namespace LiveTemplates.Number

set_option autoImplicit false

/-! ## Digits -/

namespace Decimal

/-- How many digits are written. -/
def length (d : Decimal) : Nat := (digitChars d.digits).length

/-- The place of the point: the value is below this power of ten, and not below the one before. -/
def point (d : Decimal) : Int := d.length + d.exponent

theorem length_pos (d : Decimal) : 0 < d.length := Nat.length_toDigits_pos

theorem length_le_iff {d : Decimal} {k : Nat} (positive : 0 < k) :
    d.length ≤ k ↔ d.digits < 10 ^ k :=
  Nat.length_toDigits_le_iff (by decide) positive

theorem digits_lt (d : Decimal) : d.digits < 10 ^ d.length :=
  (length_le_iff d.length_pos).1 le_rfl

theorem value_lt (d : Decimal) : d.value < 10 ^ d.point := by
  have power : (10 : ℚ) ^ d.point = 10 ^ d.length * 10 ^ d.exponent := by
    rw [point, zpow_add₀ (by decide), zpow_natCast]
  have less : (d.digits : ℚ) < 10 ^ d.length := by exact_mod_cast d.digits_lt
  rw [power, value]
  exact mul_lt_mul_of_pos_right less (zpow_pos (by decide) _)

theorem le_value {d : Decimal} (positive : 0 < d.digits) : 10 ^ (d.point - 1) ≤ d.value := by
  have enough : 10 ^ (d.length - 1) ≤ d.digits := by
    rcases Nat.lt_or_ge 1 d.length with more | one
    · by_contra! less
      have := (length_le_iff (d := d) (k := d.length - 1) (by omega)).2 less
      omega
    · rw [Nat.sub_eq_zero_of_le one]
      exact positive
  have power : (10 : ℚ) ^ (d.point - 1) = (10 ^ (d.length - 1) : Nat) * 10 ^ d.exponent := by
    have shift : d.point - 1 = (d.length - 1 : Nat) + d.exponent := by
      have := d.length_pos
      rw [point]
      omega
    rw [shift, zpow_add₀ (by decide), zpow_natCast]
    push_cast
    rfl
  rw [power, value]
  exact mul_le_mul_of_nonneg_right (by exact_mod_cast enough) (zpow_pos (by decide) _).le

/-- Zeros at the end do not count. -/
theorem strip_spec (d : Decimal) : d.strip.value = d.value ∧ d.strip.digits ≤ d.digits := by
  suffices stripped : ∀ fuel, ∀ d : Decimal,
      (stripFuel fuel d).value = d.value ∧ (stripFuel fuel d).digits ≤ d.digits from stripped _ d
  intro fuel
  induction fuel with
  | zero => exact fun d => ⟨rfl, le_rfl⟩
  | succ fuel ih =>
      intro d
      rw [stripFuel]
      split
      · rename_i zeros
        simp only [Bool.and_eq_true, beq_iff_eq] at zeros
        obtain ⟨same, fewer⟩ := ih ⟨d.digits / 10, d.exponent + 1⟩
        refine ⟨same.trans ?_, fewer.trans (Nat.div_le_self _ _)⟩
        have tens : (d.digits : ℚ) = (d.digits / 10 : Nat) * 10 := by
          exact_mod_cast (Nat.div_mul_cancel (Nat.dvd_of_mod_eq_zero zeros.2)).symm
        rw [value, value, tens, zpow_add_one₀ (by decide)]
        ring
      · exact ⟨rfl, le_rfl⟩

end Decimal

/-- A decimal is read as a magnitude, no other that is read as it has fewer digits, and none of
those with as many is nearer. -/
structure IsShortest (n : Nat) (d : Decimal) : Prop where
  reads : RoundsTo d.value n
  fewest : ∀ d' : Decimal, RoundsTo d'.value n → d.length ≤ d'.length
  nearest : ∀ d' : Decimal, RoundsTo d'.value n → d'.length = d.length →
    |d.value - magnitude n| ≤ |d'.value - magnitude n|

theorem RoundsTo.pos {q : ℚ} {n : Nat} (reads : RoundsTo q (n + 1)) : 0 < q := by
  have inside := reads.1
  have positive := magnitude_pos n.succ_pos inside.le
  have low : 0 ≤ magnitude n := magnitude_zero ▸ magnitude_le n.zero_le (by omega)
  rcases (roundsTo_iff inside).1 reads with ⟨above, -⟩ | ⟨-, above, -⟩
  · linarith
  · linarith

theorem RoundsTo.digits_pos {d : Decimal} {n : Nat} (reads : RoundsTo d.value (n + 1)) :
    0 < d.digits := by
  by_contra! none
  have zero : d.value = 0 := by
    rw [Decimal.value, Nat.le_zero.1 none]
    simp
  exact reads.pos.ne' zero

namespace Binary

/-! ## The power of ten above a magnitude -/

theorem below_iff (x : Binary) (k : Int) : x.below k = true ↔ x.value < 10 ^ k := by
  rw [below, decide_eq_true_iff, ← Nat.cast_lt (α := ℚ), ← numerator_scaling,
    ← denominator_scaling, mul_lt_mul_iff_left₀ (x.scaling_pos k)]

/-- The estimate of the power of ten from that of two. -/
def estimate (l : Int) : Int := l * 30103 / 100000

/-- Is a power of ten not above a power of two? -/
def tensLe (k l : Int) : Bool :=
  Nat.ble (10 ^ k.toNat * 2 ^ (-l).toNat) (2 ^ l.toNat * 10 ^ (-k).toNat)

/-- Is a power of two not above a power of ten? -/
def twosLe (l k : Int) : Bool :=
  Nat.ble (2 ^ l.toNat * 10 ^ (-k).toNat) (10 ^ k.toNat * 2 ^ (-l).toNat)

theorem powers_iff (k l : Int) :
    (tensLe k l = true ↔ (10 : ℚ) ^ k ≤ 2 ^ l) ∧ (twosLe l k = true ↔ (2 : ℚ) ^ l ≤ 10 ^ k) := by
  have scale : (0 : ℚ) < 2 ^ (-l).toNat * 10 ^ (-k).toNat := by positivity
  have tens : ((10 ^ k.toNat * 2 ^ (-l).toNat : Nat) : ℚ) =
      10 ^ k * (2 ^ (-l).toNat * 10 ^ (-k).toNat) := by
    rw [mul_left_comm, zpow_mul_pow_toNat (by decide)]
    push_cast
    ring
  have twos : ((2 ^ l.toNat * 10 ^ (-k).toNat : Nat) : ℚ) =
      2 ^ l * (2 ^ (-l).toNat * 10 ^ (-k).toNat) := by
    rw [← mul_assoc, zpow_mul_pow_toNat (by decide)]
    push_cast
    ring
  constructor
  · rw [tensLe, Nat.ble_eq, ← Nat.cast_le (α := ℚ), tens, twos, mul_le_mul_iff_left₀ scale]
  · rw [twosLe, Nat.ble_eq, ← Nat.cast_le (α := ℚ), tens, twos, mul_le_mul_iff_left₀ scale]

set_option maxRecDepth 10000 in
/-- The estimate is near enough for all powers of two that doubles lie between. -/
theorem estimate_near : ∀ i : Nat, i < 2098 →
    tensLe (estimate (i - 1074) - 2) (i - 1074) = true ∧
      twosLe (i - 1074 + 1) (estimate (i - 1074) + 3) = true := by
  decide +kernel

/-- The powers of two around a magnitude. -/
theorem log2_spec {x : Binary} (positive : 0 < x.mantissa) :
    2 ^ ((x.mantissa.log2 : Int) + x.exponent) ≤ x.value ∧
      x.value < 2 ^ ((x.mantissa.log2 : Int) + x.exponent + 1) := by
  have low : ((2 ^ x.mantissa.log2 : Nat) : ℚ) ≤ x.mantissa := by
    exact_mod_cast Nat.log2_self_le positive.ne'
  have high : (x.mantissa : ℚ) < (2 ^ (x.mantissa.log2 + 1) : Nat) := by
    exact_mod_cast Nat.lt_log2_self
  rw [add_right_comm, zpow_add₀ (by decide), zpow_add₀ (by decide), value]
  refine ⟨mul_le_mul_of_nonneg_right ?_ x.unit_pos.le, mul_lt_mul_of_pos_right ?_ x.unit_pos⟩
  · simpa using low
  · exact_mod_cast high

theorem exponent_bounds {n : Nat} (inside : n < infinityBits) :
    -1074 ≤ (nth n).exponent ∧ (nth n).exponent ≤ 971 := by
  obtain small | ⟨e, f, normal, fits, below, rfl⟩ := bits_cases inside.le
  · rw [nth_small small]
    exact ⟨le_rfl, (by decide : (-1074 : Int) ≤ 971)⟩
  · rw [infinityBits] at inside
    rw [nth_normal normal fits below]
    simp only
    omega

/-- The estimate leaves four candidates. -/
theorem estimate_spec {n : Nat} (inside : n + 1 < infinityBits) :
    let x := nth (n + 1)
    let around := (x.mantissa.log2 : Int) + x.exponent
    10 ^ (estimate around - 2) ≤ x.value ∧ x.value < 10 ^ (estimate around + 3) := by
  intro x around
  have positive : 0 < x.mantissa := mantissa_pos n.succ_pos inside.le
  have bits : x.mantissa.log2 < 53 := (Nat.log2_lt positive.ne').2 (mantissa_lt inside.le)
  obtain ⟨least, most⟩ : -1074 ≤ x.exponent ∧ x.exponent ≤ 971 := exponent_bounds inside
  obtain ⟨i, split⟩ : ∃ i : Nat, around = i - 1074 := ⟨(around + 1074).toNat, by omega⟩
  obtain ⟨low, high⟩ := estimate_near i (by omega)
  rw [← split] at low high
  obtain ⟨above, below⟩ := log2_spec positive
  exact ⟨((powers_iff _ _).1.1 low).trans above, below.trans_le ((powers_iff _ _).2.1 high)⟩

/-- The scale is the power of ten above a magnitude. -/
theorem scale_spec {n : Nat} (inside : n + 1 < infinityBits) :
    10 ^ ((nth (n + 1)).scale - 1) ≤ (nth (n + 1)).value ∧
      (nth (n + 1)).value < 10 ^ (nth (n + 1)).scale := by
  obtain ⟨low, high⟩ := estimate_spec inside
  set x := nth (n + 1)
  have above (k : Int) (not : x.below k = false) : 10 ^ k ≤ x.value := by
    rw [← not_lt, ← below_iff, not]
    exact Bool.false_ne_true
  rw [scale, ← estimate]
  set e := estimate ((x.mantissa.log2 : Int) + x.exponent)
  -- the first candidate that is above has one before it that is not
  simp only [List.find?]
  cases first : x.below (e - 1) with
  | true => exact ⟨by rwa [sub_sub], (below_iff x _).1 first⟩
  | false =>
    cases second : x.below e with
    | true => exact ⟨above _ first, (below_iff x _).1 second⟩
    | false =>
      cases third : x.below (e + 1) with
      | true => exact ⟨by simpa using above _ second, (below_iff x _).1 third⟩
      | false =>
        cases fourth : x.below (e + 2) with
        | true =>
            have before : (10 : ℚ) ^ (e + 2 - 1) ≤ x.value := by
              rw [show e + 2 - 1 = e + 1 by omega]
              exact above _ third
            exact ⟨before, (below_iff x _).1 fourth⟩
        | false =>
            have before : (10 : ℚ) ^ (e + 3 - 1) ≤ x.value := by
              rw [show e + 3 - 1 = e + 2 by omega]
              exact above _ fourth
            exact ⟨before, high⟩

/-! ## One grid -/

/-- The neighbour of a magnitude on a grid that is not above it. -/
def gridBelow (x : Binary) (e : Int) : Decimal := ⟨x.numerator e / x.denominator e, e⟩

/-- The neighbour of a magnitude on a grid that is above it. -/
def gridAbove (x : Binary) (e : Int) : Decimal := ⟨x.numerator e / x.denominator e + 1, e⟩

theorem denominator_pos (x : Binary) (e : Int) : 0 < x.denominator e :=
  Nat.mul_pos (Nat.pow_pos (by decide)) (Nat.pow_pos (by decide))

theorem gridBelow_le (x : Binary) (e : Int) : (x.gridBelow e).value ≤ x.value := by
  rw [gridBelow, Decimal.value, ← mul_le_mul_iff_left₀ (x.scaling_pos e), mul_assoc,
    denominator_scaling, numerator_scaling]
  exact_mod_cast Nat.div_mul_le_self _ _

theorem lt_gridAbove (x : Binary) (e : Int) : x.value < (x.gridAbove e).value := by
  rw [gridAbove, Decimal.value, ← mul_lt_mul_iff_left₀ (x.scaling_pos e), mul_assoc,
    denominator_scaling, numerator_scaling]
  exact_mod_cast Nat.lt_mul_of_div_lt (Nat.lt_succ_self _) (x.denominator_pos e)

theorem gridAbove_eq (x : Binary) (e : Int) :
    (x.gridAbove e).value = (x.gridBelow e).value + 10 ^ e := by
  simp only [gridAbove, gridBelow, Decimal.value]
  push_cast
  ring

/-- The remainder tells which neighbour is nearer. -/
theorem remainder_spec (x : Binary) (e : Int) :
    (2 * (x.numerator e % x.denominator e) ≤ x.denominator e →
        x.value - (x.gridBelow e).value ≤ (x.gridAbove e).value - x.value) ∧
      (x.denominator e ≤ 2 * (x.numerator e % x.denominator e) →
        (x.gridAbove e).value - x.value ≤ x.value - (x.gridBelow e).value) := by
  have whole : (x.numerator e : ℚ) = x.denominator e * (x.numerator e / x.denominator e : Nat) +
      (x.numerator e % x.denominator e : Nat) := by
    exact_mod_cast (Nat.div_add_mod _ _).symm
  have down : (x.value - (x.gridBelow e).value) * x.scaling e =
      (x.numerator e % x.denominator e : Nat) := by
    rw [gridBelow, Decimal.value]
    linear_combination numerator_scaling x e -
      (x.numerator e / x.denominator e : Nat) * denominator_scaling x e + whole
  have up : ((x.gridAbove e).value - x.value) * x.scaling e =
      x.denominator e - (x.numerator e % x.denominator e : Nat) := by
    rw [gridAbove_eq]
    linear_combination denominator_scaling x e - down
  constructor
  · intro small
    rw [← mul_le_mul_iff_left₀ (x.scaling_pos e), down, up, le_sub_iff_add_le, ← two_mul]
    exact_mod_cast small
  · intro great
    rw [← mul_le_mul_iff_left₀ (x.scaling_pos e), down, up, sub_le_iff_le_add, ← two_mul]
    exact_mod_cast great

/-- A point of a grid that is read lies behind a neighbour of the magnitude that is read. -/
theorem neighbour_reads {n : Nat} {e : Int} {c : Nat}
    (reads : RoundsTo (Decimal.mk c e).value (n + 1)) :
    (RoundsTo ((nth (n + 1)).gridBelow e).value (n + 1) ∧
        (Decimal.mk c e).value ≤ ((nth (n + 1)).gridBelow e).value) ∨
      (RoundsTo ((nth (n + 1)).gridAbove e).value (n + 1) ∧
        ((nth (n + 1)).gridAbove e).value ≤ (Decimal.mk c e).value) := by
  have below := (nth (n + 1)).gridBelow_le e
  have above := (nth (n + 1)).lt_gridAbove e
  have self : RoundsTo (nth (n + 1)).value (n + 1) := roundsTo_magnitude reads.1
  have grid {a b : Nat} (le : a ≤ b) : (Decimal.mk a e).value ≤ (Decimal.mk b e).value :=
    mul_le_mul_of_nonneg_right (by exact_mod_cast le) (zpow_pos (by decide) _).le
  rcases Nat.lt_or_ge ((nth (n + 1)).gridBelow e).digits c with greater | less
  · exact .inr ⟨self.between reads above.le (grid greater), grid greater⟩
  · exact .inl ⟨reads.between self (grid less) below, grid less⟩

/-- The neighbour below is nearest if it is nearer than the one above, or if that is not read. -/
theorem nearest_gridBelow {n : Nat} {e : Int}
    (side : (nth (n + 1)).value - ((nth (n + 1)).gridBelow e).value ≤
        ((nth (n + 1)).gridAbove e).value - (nth (n + 1)).value ∨
      ¬ RoundsTo ((nth (n + 1)).gridAbove e).value (n + 1))
    {c : Nat} (reads : RoundsTo (Decimal.mk c e).value (n + 1)) :
    |((nth (n + 1)).gridBelow e).value - magnitude (n + 1)| ≤
      |(Decimal.mk c e).value - magnitude (n + 1)| := by
  have below := (nth (n + 1)).gridBelow_le e
  have neighbour := neighbour_reads reads
  rw [magnitude, abs_of_nonpos (sub_nonpos.2 below)]
  rcases neighbour with ⟨-, before⟩ | ⟨high, behind⟩
  · exact le_trans (by linarith) (neg_le_abs _)
  · have nearer := side.resolve_right (not_not.2 high)
    exact le_trans (by linarith) (le_abs_self _)

theorem nearest_gridAbove {n : Nat} {e : Int}
    (side : ((nth (n + 1)).gridAbove e).value - (nth (n + 1)).value ≤
        (nth (n + 1)).value - ((nth (n + 1)).gridBelow e).value ∨
      ¬ RoundsTo ((nth (n + 1)).gridBelow e).value (n + 1))
    {c : Nat} (reads : RoundsTo (Decimal.mk c e).value (n + 1)) :
    |((nth (n + 1)).gridAbove e).value - magnitude (n + 1)| ≤
      |(Decimal.mk c e).value - magnitude (n + 1)| := by
  have above := (nth (n + 1)).lt_gridAbove e
  have neighbour := neighbour_reads reads
  rw [magnitude, abs_of_nonneg (sub_nonneg.2 above.le)]
  rcases neighbour with ⟨low, before⟩ | ⟨-, behind⟩
  · have nearer := side.resolve_right (not_not.2 low)
    exact le_trans (by linarith) (neg_le_abs _)
  · exact le_trans (by linarith) (le_abs_self _)

/-- What has been found on a grid, where it is a neighbour of the magnitude. -/
structure Found (n : Nat) (e : Int) (d : Decimal) : Prop where
  exponent : d.exponent = e
  digits : d.digits ≤ ((nth n).gridBelow e).digits + 1
  reads : RoundsTo d.value n
  nearest : ∀ c, RoundsTo (Decimal.mk c e).value n →
    |d.value - magnitude n| ≤ |(Decimal.mk c e).value - magnitude n|

theorem onGrid_eq (x : Binary) (tie : Tie) (e : Int) :
    x.onGrid tie e =
      match x.reads (x.gridBelow e) && (x.gridBelow e).digits != 0, x.reads (x.gridAbove e) with
      | true, true =>
        match compare (2 * (x.numerator e % x.denominator e)) (x.denominator e) with
        | .lt => some (x.gridBelow e)
        | .gt => some (x.gridAbove e)
        | .eq =>
          if tie == .even && (x.gridBelow e).digits % 2 == 0 then some (x.gridBelow e)
          else some (x.gridAbove e)
      | true, false => some (x.gridBelow e)
      | false, true => some (x.gridAbove e)
      | false, false => none :=
  rfl

/-- A nearest point of the grid that is read is found, if there is one. -/
theorem onGrid_spec {n : Nat} (tie : Tie) (e : Int) (inside : n + 1 < infinityBits) :
    match (nth (n + 1)).onGrid tie e with
    | none => ∀ c, ¬ RoundsTo (Decimal.mk c e).value (n + 1)
    | some d => Found (n + 1) e d := by
  have first : ((nth (n + 1)).reads ((nth (n + 1)).gridBelow e) &&
      ((nth (n + 1)).gridBelow e).digits != 0) = true ↔
      RoundsTo ((nth (n + 1)).gridBelow e).value (n + 1) := by
    rw [Bool.and_eq_true, reads_iff inside]
    exact ⟨And.left, fun reads => ⟨reads, bne_iff_ne.2 reads.digits_pos.ne'⟩⟩
  have second := reads_iff inside ((nth (n + 1)).gridAbove e)
  obtain ⟨lower, upper⟩ := (nth (n + 1)).remainder_spec e
  have foundBelow (reads : RoundsTo ((nth (n + 1)).gridBelow e).value (n + 1))
      (side : (nth (n + 1)).value - ((nth (n + 1)).gridBelow e).value ≤
        ((nth (n + 1)).gridAbove e).value - (nth (n + 1)).value ∨
          ¬ RoundsTo ((nth (n + 1)).gridAbove e).value (n + 1)) :
      Found (n + 1) e ((nth (n + 1)).gridBelow e) :=
    ⟨rfl, Nat.le_succ _, reads, fun _ => nearest_gridBelow side⟩
  have foundAbove (reads : RoundsTo ((nth (n + 1)).gridAbove e).value (n + 1))
      (side : ((nth (n + 1)).gridAbove e).value - (nth (n + 1)).value ≤
        (nth (n + 1)).value - ((nth (n + 1)).gridBelow e).value ∨
          ¬ RoundsTo ((nth (n + 1)).gridBelow e).value (n + 1)) :
      Found (n + 1) e ((nth (n + 1)).gridAbove e) :=
    ⟨rfl, le_rfl, reads, fun _ => nearest_gridAbove side⟩
  rw [onGrid_eq]
  cases low : ((nth (n + 1)).reads ((nth (n + 1)).gridBelow e) &&
      ((nth (n + 1)).gridBelow e).digits != 0) with
  | true =>
    have readBelow := first.1 low
    cases high : (nth (n + 1)).reads ((nth (n + 1)).gridAbove e) with
    | true =>
      have readAbove := second.1 high
      cases order : compare (2 * ((nth (n + 1)).numerator e % (nth (n + 1)).denominator e))
          ((nth (n + 1)).denominator e) with
      | lt => exact foundBelow readBelow (.inl (lower (Nat.compare_eq_lt.1 order).le))
      | gt => exact foundAbove readAbove (.inl (upper (Nat.compare_eq_gt.1 order).le))
      | eq =>
          have half := Nat.compare_eq_eq.1 order
          have below := foundBelow readBelow (.inl (lower half.le))
          have above := foundAbove readAbove (.inl (upper half.ge))
          simp only
          split
          · rename_i split
            split at split
            · exact absurd split nofun
            · exact absurd split nofun
          · rename_i split
            split at split
            · exact Option.some.inj split ▸ below
            · exact Option.some.inj split ▸ above
    | false => exact foundBelow readBelow (.inr fun read => Bool.false_ne_true (high ▸ second.2 read))
  | false =>
    have unread (read : RoundsTo ((nth (n + 1)).gridBelow e).value (n + 1)) : False :=
      Bool.false_ne_true (low ▸ first.2 read)
    cases high : (nth (n + 1)).reads ((nth (n + 1)).gridAbove e) with
    | true => exact foundAbove (second.1 high) (.inr unread)
    | false =>
        intro c reads
        rcases neighbour_reads reads with ⟨read, -⟩ | ⟨read, -⟩
        · exact unread read
        · exact Bool.false_ne_true (high ▸ second.2 read)

/-! ## All grids -/

/-- A decimal on a coarser grid lies on a finer one as well. -/
theorem value_of_le {d : Decimal} {e : Int} (coarser : e ≤ d.exponent) :
    d.value = (Decimal.mk (d.digits * 10 ^ (d.exponent - e).toNat) e).value := by
  have split : d.exponent = (d.exponent - e).toNat + e := by omega
  rw [Decimal.value, Decimal.value]
  nth_rewrite 1 [split]
  rw [zpow_add₀ (by decide), zpow_natCast]
  push_cast
  ring

/-- A decimal that is read has a point of the grid with as many digits that is read and at least
as near. -/
theorem grid_of_reads {n : Nat} {d : Decimal} (reads : RoundsTo d.value (n + 1)) :
    ∃ c, RoundsTo (Decimal.mk c ((nth (n + 1)).scale - d.length)).value (n + 1) ∧
      |(Decimal.mk c ((nth (n + 1)).scale - d.length)).value - magnitude (n + 1)| ≤
        |d.value - magnitude (n + 1)| := by
  obtain ⟨above, -⟩ := scale_spec reads.1
  rcases le_or_gt ((nth (n + 1)).scale - d.length) d.exponent with coarser | finer
  · have same := value_of_le coarser
    exact ⟨_, same ▸ reads, same ▸ le_rfl⟩
  · -- the power of ten below the magnitude is on the grid, and the decimal is not above it
    have power : (Decimal.mk (10 ^ (d.length - 1)) ((nth (n + 1)).scale - d.length)).value =
        10 ^ ((nth (n + 1)).scale - 1) := by
      have digits := d.length_pos
      have shift : (nth (n + 1)).scale - 1 =
          (d.length - 1 : Nat) + ((nth (n + 1)).scale - d.length) := by omega
      rw [shift, zpow_add₀ (by decide), zpow_natCast, Decimal.value]
      push_cast
      rfl
    have less : d.value ≤ 10 ^ ((nth (n + 1)).scale - 1) := by
      refine d.value_lt.le.trans (zpow_le_zpow_right₀ (by decide) ?_)
      rw [Decimal.point]
      omega
    refine ⟨10 ^ (d.length - 1), ?_, ?_⟩
    · rw [power]
      exact reads.between (roundsTo_magnitude reads.1) less above
    · have below : (10 : ℚ) ^ ((nth (n + 1)).scale - 1) ≤ magnitude (n + 1) := above
      rw [power, abs_of_nonpos (sub_nonpos.2 below), abs_of_nonpos (sub_nonpos.2 (less.trans below))]
      linarith

/-- The grid of 17 digits always has a point that is read. -/
theorem grid_17 {n : Nat} (inside : n + 1 < infinityBits) :
    ∃ c, RoundsTo (Decimal.mk c ((nth (n + 1)).scale - 17)).value (n + 1) := by
  obtain ⟨above, -⟩ := scale_spec inside
  set x := nth (n + 1) with same
  have low := x.gridBelow_le (x.scale - 17)
  have high := x.lt_gridAbove (x.scale - 17)
  have step := x.gridAbove_eq (x.scale - 17)
  -- the step of the grid, against the unit of the magnitude
  have fine : (10 : ℚ) ^ (x.scale - 17) * 10 ^ 16 ≤ x.mantissa * x.unit := by
    refine le_trans (le_of_eq ?_) above
    rw [← zpow_natCast, ← zpow_add₀ (by decide)]
    congr 1
    omega
  have mantissa : (x.mantissa : ℚ) ≤ 2 ^ 53 := by exact_mod_cast (mantissa_lt inside.le).le
  have positive := x.unit_pos
  have bounded : (10 : ℚ) ^ (x.scale - 17) * 10 ^ 16 ≤ 2 ^ 53 * x.unit :=
    fine.trans (mul_le_mul_of_nonneg_right mantissa positive.le)
  have here : magnitude (n + 1) = x.value := rfl
  have up : magnitude (n + 2) = x.value + x.unit := magnitude_succ inside
  have down : magnitude n = x.value - x.unit / if x.narrow then 2 else 1 := magnitude_pred inside.le
  by_cases near : 2 * (x.gridAbove (x.scale - 17)).value < x.value + magnitude (n + 2)
  · refine ⟨(x.gridAbove (x.scale - 17)).digits, (roundsTo_iff inside).2 (.inl ⟨?_, near⟩)⟩
    have before := magnitude_lt (Nat.lt_succ_self n) inside.le
    change _ < 2 * (x.gridAbove (x.scale - 17)).value
    linarith
  · refine ⟨(x.gridBelow (x.scale - 17)).digits, (roundsTo_iff inside).2 (.inl ?_)⟩
    change _ < 2 * (x.gridBelow (x.scale - 17)).value ∧ 2 * (x.gridBelow (x.scale - 17)).value < _
    rw [here, down, up]
    refine ⟨?_, by linarith⟩
    by_cases narrow : x.narrow
    · have power : (x.mantissa : ℚ) = 2 ^ 52 := by
        exact_mod_cast mantissa_of_narrow inside.le narrow
      rw [power] at fine
      linarith
    · rw [if_neg narrow]
      linarith

theorem isSome_onGrid {n : Nat} {tie : Tie} {e : Int} {c : Nat}
    (reads : RoundsTo (Decimal.mk c e).value (n + 1)) :
    (nth (n + 1)).onGrid tie e ≠ none := by
  intro none
  have spec := onGrid_spec tie e reads.1
  rw [none] at spec
  exact spec c reads

/-- The search ends at the first grid on which something is found. -/
theorem search_spec {n : Nat} (tie : Tie) (inside : n + 1 < infinityBits) :
    ∃ i < 17, ∃ d, (nth (n + 1)).shortest tie = d.strip ∧
      Found (n + 1) ((nth (n + 1)).scale - (i + 1 : Nat)) d ∧
      ∀ j < i, (nth (n + 1)).onGrid tie ((nth (n + 1)).scale - (j + 1 : Nat)) = none := by
  rw [shortest]
  set k := (nth (n + 1)).scale with scale
  cases found : (List.range 17).findSome? fun i =>
      (nth (n + 1)).onGrid tie (k - (i + 1 : Nat)) with
  | none =>
      obtain ⟨c, reads⟩ := grid_17 inside
      exact absurd (List.findSome?_eq_none_iff.1 found 16 (by decide)) (isSome_onGrid reads)
  | some d =>
      obtain ⟨before, i, behind, split, here, none⟩ := List.findSome?_eq_some_iff.1 found
      have index {j : Nat} (inside : j < 17) : (before ++ i :: behind)[j]? = some j := by
        rw [← split, List.getElem?_range inside]
      have length : before.length + behind.length + 1 = 17 := by
        have := congrArg List.length split
        rw [List.length_range, List.length_append, List.length_cons] at this
        omega
      obtain rfl : i = before.length := by
        have := index (j := before.length) (by omega)
        rwa [List.getElem?_append_right le_rfl, Nat.sub_self, List.getElem?_cons_zero,
          Option.some_inj] at this
      have spec := onGrid_spec tie (k - (before.length + 1 : Nat)) inside
      rw [here] at spec
      refine ⟨before.length, by omega, d, rfl, spec, fun j earlier => none j ?_⟩
      have := index (j := j) (by omega)
      rw [List.getElem?_append_left earlier] at this
      exact List.mem_of_getElem? this

/-- What is found on a grid has no more digits than the grid, or is the power of ten above the
magnitude. -/
theorem Found.digits_le {n i : Nat} {d : Decimal}
    (found : Found (n + 1) ((nth (n + 1)).scale - (i + 1 : Nat)) d) :
    d.digits ≤ 10 ^ (i + 1) := by
  obtain ⟨-, below⟩ := scale_spec found.reads.1
  have low := (nth (n + 1)).gridBelow_le ((nth (n + 1)).scale - (i + 1 : Nat))
  set e := (nth (n + 1)).scale - (i + 1 : Nat)
  have power : (10 : ℚ) ^ (nth (n + 1)).scale = 10 ^ (i + 1) * 10 ^ e := by
    rw [← zpow_natCast, ← zpow_add₀ (by decide)]
    congr 1
    omega
  have less : (((nth (n + 1)).gridBelow e).digits : ℚ) < (10 ^ (i + 1) : Nat) := by
    have := low.trans_lt (power ▸ below)
    rw [Decimal.value] at this
    exact_mod_cast lt_of_mul_lt_mul_right this (zpow_pos (by decide) _).le
  have digits := found.digits
  have : ((nth (n + 1)).gridBelow e).digits < 10 ^ (i + 1) := by exact_mod_cast less
  omega

/-- The search finds a shortest decimal that is read as the magnitude, for each magnitude of a
finite double but zero, and it has no more than 17 digits. -/
theorem shortest_spec {n : Nat} (tie : Tie) (inside : n + 1 < infinityBits) :
    IsShortest (n + 1) ((nth (n + 1)).shortest tie) ∧ ((nth (n + 1)).shortest tie).length ≤ 17 := by
  obtain ⟨i, bounded, d, same, found, none⟩ := search_spec tie inside
  obtain ⟨value, digits⟩ := d.strip_spec
  rw [same]
  have enough (d' : Decimal) (reads : RoundsTo d'.value (n + 1)) : i + 1 ≤ d'.length := by
    by_contra! fewer
    obtain ⟨c, reads', -⟩ := grid_of_reads reads
    have place : ((d'.length - 1 + 1 : Nat) : Int) = d'.length := by
      have := d'.length_pos
      omega
    have some : (nth (n + 1)).onGrid tie _ ≠ Option.none := isSome_onGrid reads'
    rw [← place] at some
    exact some (none _ (by omega))
  have few : d.strip.length ≤ i + 1 := by
    rw [Decimal.length_le_iff (by omega)]
    rcases found.digits_le.lt_or_eq with less | power
    · exact digits.trans_lt less
    · -- the power of ten lies on the first grid already
      have first : i = 0 := by
        have one := enough ⟨1, d.exponent + (i + 1 : Nat)⟩ ?_
        · have single : (Decimal.mk 1 (d.exponent + (i + 1 : Nat))).length ≤ 1 :=
            (Decimal.length_le_iff Nat.one_pos).2 (by decide : 1 < 10 ^ 1)
          omega
        · convert found.reads using 1
          rw [Decimal.value, Decimal.value, power, zpow_add₀ (by decide), zpow_natCast]
          push_cast
          ring
      subst first
      have ten : d = ⟨10, d.exponent⟩ := by
        rw [← show d.digits = 10 from power]
      have one : (Decimal.mk 10 d.exponent).strip.digits = 1 := by
        rw [Decimal.strip, show (10 : Nat).log2 = 3 by decide]
        simp [Decimal.stripFuel]
      rw [ten, one]
      decide
  have exact : d.strip.length = i + 1 := le_antisymm few (enough _ (value ▸ found.reads))
  refine ⟨⟨value ▸ found.reads, fun d' reads => few.trans (enough d' reads), ?_⟩, by omega⟩
  intro d' reads as
  obtain ⟨c, reads', nearer⟩ := grid_of_reads reads
  rw [as, exact] at reads' nearer
  rw [value]
  exact (found.nearest c reads').trans nearer

end Binary

end LiveTemplates.Number
