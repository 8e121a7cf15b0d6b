/-
# LiveTemplates.Proofs.Number.Notation -- the text of a number and its digits in ECMAScript

ECMAScript writes a number with the fewest digits that identify it, zeros behind them up to 21
places, and with an exponent outside of that (`Decimal.ecmaScript`, `IsEcmaScript`).  The text of a
number is the same but for integers below 10^21, which are written with all their digits.  These
can be more than identify it, and then they are others.

* `IsShortest.power_le_iff`: whether the exponent is written can be told from the number;
* `isEcmaScript_text_iff`: which texts are the same, among these all that are not integers;
* `text_spec`: the text of each finite number;
* `text_not_ecmaScript`: 2^55 is written with a digit that ECMAScript does not write.
-/
import Mathlib
import LiveTemplates.Proofs.Number.Shortest

namespace LiveTemplates.Number

set_option autoImplicit false

/-! ## Digits with zeros -/

theorem digitChars_injective : Function.Injective digitChars := by
  intro a b same
  have read := congrArg (Nat.ofDigitChars 10 · 0) same
  simpa only [digitChars, Nat.ofDigitChars_ten_toDigits] using read

theorem digitChars_mul_pow {n : Nat} (positive : 0 < n) (m : Nat) :
    digitChars (n * 10 ^ m) = digitChars n ++ List.replicate m '0' := by
  induction m with
  | zero => simp
  | succ m ih =>
      have step := Nat.toDigits_append_toDigits (b := 10) (n := n * 10 ^ m) (d := 0) (by decide)
        (Nat.mul_pos positive (Nat.pow_pos (by decide))) (by decide)
      have next : n * 10 ^ (m + 1) = 10 * (n * 10 ^ m) + 0 := by ring
      rw [next, digitChars, ← step, ← digitChars, ih, List.replicate_succ', ← List.append_assoc]
      rfl

/-! ## What ECMAScript writes -/

/-- The digits of a decimal as ECMAScript writes them: of `k` digits in front of which the point
would stand at `n`, by the cases of its number to string conversion. -/
def Decimal.ecmaScript (d : Decimal) : List Char :=
  let s := digitChars d.digits
  let k : Int := d.length
  let n := d.point
  let exponent := 'e' :: (if n - 1 < 0 then '-' else '+') :: digitChars (n - 1).natAbs
  if k ≤ n ∧ n ≤ 21 then s ++ List.replicate (n - k).toNat '0'
  else if 0 < n ∧ n ≤ 21 then s.take n.toNat ++ '.' :: s.drop n.toNat
  else if -6 < n ∧ n ≤ 0 then '0' :: '.' :: (List.replicate (-n).toNat '0' ++ s)
  else if k = 1 then s ++ exponent
  else s.take 1 ++ '.' :: (s.drop 1 ++ exponent)

/-- The bits of a number but for its sign. -/
def magnitudeBits (x : Float) : Nat := x.toBits.toNat % 2 ^ 63

/-- The sign of a number. -/
def sign (x : Float) : List Char := if isNegative x then ['-'] else []

/-- A text is what ECMAScript writes for a finite number.  Where two shortest decimals are equally
near, it can be any of them. -/
def IsEcmaScript (x : Float) (text : String) : Prop :=
  if magnitudeBits x = 0 then text = "0"
  else ∃ d, IsShortest (magnitudeBits x) d ∧ text = String.ofList (sign x ++ d.ecmaScript)

theorem scientific_cons (c : Char) (rest : List Char) (exponent : Int) :
    scientific (c :: rest) exponent = (if rest = [] then [c] else c :: '.' :: rest) ++
      'e' :: (if exponent < 0 then '-' else '+') :: digitChars exponent.natAbs := by
  cases rest <;> rfl

/-- The cases come down to those of the text of a number. -/
theorem Decimal.ecmaScript_eq (d : Decimal) :
    d.ecmaScript = if -6 < d.point ∧ d.point ≤ 21 then positional (digitChars d.digits) d.point
      else scientific (digitChars d.digits) (d.point - 1) := by
  have length : (digitChars d.digits).length = d.length := rfl
  have digits := d.length_pos
  rw [ecmaScript]
  by_cases inside : -6 < d.point ∧ d.point ≤ 21
  · rw [if_pos inside, positional, length]
    by_cases low : d.point ≤ 0
    · rw [if_neg (by omega), if_neg (by omega), if_pos ⟨inside.1, low⟩, if_pos low]
    · rw [if_neg low]
      by_cases whole : d.length ≤ d.point
      · rw [if_pos ⟨whole, inside.2⟩, if_pos whole]
        congr 2
        omega
      · rw [if_neg (by omega), if_pos ⟨by omega, inside.2⟩, if_neg whole]
  · rw [if_neg (by omega), if_neg (by omega), if_neg (by omega), if_neg inside]
    obtain ⟨c, rest, split⟩ := List.exists_cons_of_length_pos (length ▸ digits)
    have one : (d.length : Int) = 1 ↔ rest = [] := by
      rw [← length, split, List.length_cons, ← List.length_eq_zero_iff]
      omega
    rw [split, scientific_cons]
    by_cases single : rest = []
    · rw [if_pos (one.2 single), if_pos single, single]
    · rw [if_neg (mt one.1 single), if_neg single]
      rfl

/-! ## Where the exponent is written -/

theorem RoundsTo.unique {q : ℚ} {m n : Nat} (one : RoundsTo q m) (other : RoundsTo q n) :
    m = n := by
  suffices not : ∀ {m n}, RoundsTo q m → RoundsTo q n → ¬ m < n from
    le_antisymm (not_lt.1 (not other one)) (not_lt.1 (not one other))
  intro m n low high less
  have apart := magnitude_lt less high.1.le
  rcases low.2 n high.1.le less.ne' with nearer | ⟨equal, even⟩
  · rcases high.2 m low.1.le less.ne with farther | ⟨equal, -⟩
    · exact lt_asymm nearer farther
    · exact nearer.ne' equal
  · rcases high.2 m low.1.le less.ne with farther | ⟨-, even'⟩
    · exact farther.ne' equal
    · -- between two that are both even there is a nearer one
      rw [Binary.mantissa_mod low.1.le] at even
      rw [Binary.mantissa_mod high.1.le] at even'
      have between : m + 1 < n := by omega
      have inside := between.trans high.1
      have next := magnitude_lt (Nat.lt_succ_self m) inside.le
      have before := magnitude_lt between high.1.le
      have middle := (equally_near_iff apart).1 equal.symm
      have near := (nearer_iff next (q := q)).2 (by linarith)
      rcases low.2 (m + 1) inside.le (by omega) with far | ⟨far, -⟩
      · exact lt_asymm near far
      · exact near.ne' far

theorem RoundsTo.le_of_le {p q : ℚ} {m n : Nat} (low : RoundsTo p m) (high : RoundsTo q n)
    (le : p ≤ q) : m ≤ n := by
  rcases le.lt_or_eq with less | rfl
  · exact low.le_of_lt high less
  · exact (low.unique high).le

namespace Decimal

theorem lt_point_iff {d : Decimal} (positive : 0 < d.digits) (k : Int) :
    k < d.point ↔ 10 ^ k ≤ d.value := by
  constructor
  · intro less
    exact (zpow_le_zpow_right₀ (by decide) (by omega)).trans (le_value positive)
  · intro le
    exact (zpow_lt_zpow_iff_right₀ (by decide : (1 : ℚ) < 10)).1 (le.trans_lt d.value_lt)

/-- Below a power of ten, a decimal of one digit is not above nine tenths of it. -/
theorem le_nine {d : Decimal} (one : d.length ≤ 1) {k : Int} (below : d.value < 10 ^ k) :
    d.value ≤ (Decimal.mk 9 (k - 1)).value := by
  have digits := (length_le_iff Nat.one_pos).1 one
  have nine : (d.digits : ℚ) ≤ 9 := by exact_mod_cast Nat.le_of_lt_succ digits
  have place : (0 : ℚ) < 10 ^ (k - 1) := zpow_pos (by decide) _
  rcases Nat.eq_zero_or_pos d.digits with none | positive
  · rw [value, value, none]
    simpa using place.le
  · have first : (1 : ℚ) ≤ d.digits := by exact_mod_cast positive
    have less : (10 : ℚ) ^ d.exponent < 10 ^ k :=
      (le_mul_of_one_le_left (zpow_pos (by decide) _).le first).trans_lt below
    have before : d.exponent < k := (zpow_lt_zpow_iff_right₀ (by decide : (1 : ℚ) < 10)).1 less
    have power : (10 : ℚ) ^ d.exponent ≤ 10 ^ (k - 1) :=
      zpow_le_zpow_right₀ (by decide) (by omega)
    calc d.value ≤ 9 * 10 ^ (k - 1) :=
          mul_le_mul nine power (zpow_pos (by decide) _).le (by decide)
      _ = _ := by
          rw [value]
          push_cast
          rfl

end Decimal

/-- A shortest decimal is not below a power of ten if the number is not below what the power is
read as, which must not be read from nine tenths of it. -/
theorem IsShortest.power_le_iff {n N : Nat} {d : Decimal} (short : IsShortest (n + 1) d) {k : Int}
    (reads : RoundsTo (10 ^ k) N) (apart : ¬ RoundsTo (Decimal.mk 9 (k - 1)).value N) :
    10 ^ k ≤ d.value ↔ magnitude N ≤ magnitude (n + 1) := by
  constructor
  · intro above
    exact magnitude_le (reads.le_of_le short.reads above) short.reads.1.le
  · intro above
    by_contra! below
    have before : N ≤ n + 1 := by
      by_contra! after
      exact absurd (magnitude_lt after reads.1.le) (not_lt.2 above)
    obtain rfl : N = n + 1 := le_antisymm before (short.reads.le_of_le reads below.le)
    have power : (Decimal.mk 1 k).value = 10 ^ k := by
      rw [Decimal.value]
      simp
    have single : (Decimal.mk 1 k).length ≤ 1 :=
      (Decimal.length_le_iff Nat.one_pos).2 (by decide : 1 < 10 ^ 1)
    have one := (short.fewest ⟨1, k⟩ (power ▸ reads)).trans single
    have under := Decimal.le_nine one below
    have beyond : (Decimal.mk 9 (k - 1)).value ≤ 10 ^ k := by
      rw [Decimal.value, zpow_sub_one₀ (by decide)]
      have := zpow_pos (by decide : (0 : ℚ) < 10) k
      push_cast
      linarith
    exact apart (short.reads.between reads under beyond)

/-- The double that 1e-6 is read as. -/
def millionthBits : Nat := 0x3EB0C6F7A0B5ED8D

/-- The double that 1e21 is. -/
def sextillionBits : Nat := 0x444B1AE4D6E2EF50

theorem roundsTo_millionth : RoundsTo (10 ^ (-6 : Int)) millionthBits := by
  have reads := (Binary.reads_iff (n := 0x3EB0C6F7A0B5ED8C) (by decide) ⟨1, -6⟩).1 (by decide)
  rwa [Decimal.value, Nat.cast_one, one_mul] at reads

theorem magnitude_sextillion : magnitude sextillionBits = 10 ^ (21 : Int) := by
  rw [magnitude, show Binary.nth sextillionBits = ⟨0x1B1AE4D6E2EF50, 17, false⟩ by decide,
    Binary.value, Binary.unit]
  norm_num

theorem millionth_le_one : magnitude millionthBits ≤ 1 := by
  rw [magnitude, show Binary.nth millionthBits = ⟨0x10C6F7A0B5ED8D, -72, false⟩ by decide,
    Binary.value, Binary.unit]
  norm_num

/-- A shortest decimal is written without an exponent from 1e-6 up to 1e21. -/
theorem IsShortest.positional_iff {n : Nat} {d : Decimal} (short : IsShortest (n + 1) d) :
    (-6 < d.point ∧ d.point ≤ 21) ↔
      magnitude millionthBits ≤ magnitude (n + 1) ∧ magnitude (n + 1) < 10 ^ (21 : Int) := by
  have positive := short.reads.digits_pos
  have low := short.power_le_iff roundsTo_millionth fun reads =>
    absurd ((Binary.reads_iff (n := 0x3EB0C6F7A0B5ED8C) (by decide) _).2 reads) (by decide)
  have reads : RoundsTo (10 ^ (21 : Int)) sextillionBits :=
    magnitude_sextillion ▸ roundsTo_magnitude (by decide)
  have high := short.power_le_iff reads fun reads =>
    absurd ((Binary.reads_iff (n := 0x444B1AE4D6E2EF4F) (by decide) _).2 reads) (by decide)
  have upper : d.point ≤ 21 ↔ ¬ 21 < d.point := not_lt.symm
  rw [upper, Decimal.lt_point_iff positive, low, Decimal.lt_point_iff positive, high, not_le,
    magnitude_sextillion]

/-! ## Integers -/

/-- All digits of an integer, as a decimal. -/
def whole (i : Nat) : Decimal := ⟨i, 0⟩

theorem whole_value (i : Nat) : (whole i).value = i := by
  simp [whole, Decimal.value]

/-- A decimal that is an integer is written with all its digits if it has no more of them. -/
theorem Decimal.ecmaScript_of_value {d : Decimal} {i : Nat} (positive : 0 < d.digits)
    (few : d.length ≤ (whole i).length) (value : d.value = i) (inside : d.point ≤ 21) :
    d.ecmaScript = digitChars i := by
  have exponent : 0 ≤ d.exponent := by
    by_contra! part
    -- the integer would have fewer digits
    have split : d.digits = i * 10 ^ (-d.exponent).toNat := by
      have power : (10 : ℚ) ^ d.exponent * 10 ^ (-d.exponent).toNat = 1 := by
        rw [zpow_mul_pow_toNat (by decide), Int.toNat_of_nonpos part.le, pow_zero]
      have : (d.digits : ℚ) = i * 10 ^ (-d.exponent).toNat := by
        rw [← value, Decimal.value, mul_assoc, power, mul_one]
      exact_mod_cast this
    have some : 0 < i := Nat.pos_of_mul_pos_right (split ▸ positive)
    have longer : d.length = (whole i).length + (-d.exponent).toNat := by
      rw [length, split, digitChars_mul_pow some, List.length_append, List.length_replicate]
      rfl
    omega
  have split : i = d.digits * 10 ^ d.exponent.toNat := by
    have power : (10 : ℚ) ^ d.exponent = 10 ^ d.exponent.toNat := by
      rw [← zpow_natCast, Int.toNat_of_nonneg exponent]
    have : (i : ℚ) = d.digits * 10 ^ d.exponent.toNat := by rw [← value, Decimal.value, power]
    exact_mod_cast this
  rw [split, digitChars_mul_pow positive, ecmaScript, if_pos ⟨by rw [point]; omega, inside⟩, point]
  congr 3
  omega

/-- All but integers are written with other characters than digits. -/
theorem Decimal.ecmaScript_other {d : Decimal} (other : ¬ (d.length ≤ d.point ∧ d.point ≤ 21)) :
    ∃ c ∈ d.ecmaScript, c.isDigit = false := by
  rw [ecmaScript, if_neg other]
  split
  · exact ⟨'.', List.mem_append_right _ List.mem_cons_self, rfl⟩
  · split
    · exact ⟨'.', List.mem_cons_of_mem _ List.mem_cons_self, rfl⟩
    · split
      · exact ⟨'e', List.mem_append_right _ List.mem_cons_self, rfl⟩
      · exact ⟨'.', List.mem_append_right _ List.mem_cons_self, rfl⟩

/-- Where ECMAScript writes a decimal as an integer, it is this. -/
theorem Decimal.value_of_ecmaScript {d : Decimal} {i : Nat} (positive : 0 < d.digits)
    (same : d.ecmaScript = digitChars i) : d.value = i := by
  by_cases integer : d.length ≤ d.point ∧ d.point ≤ 21
  · have exponent : 0 ≤ d.exponent := by
      have := integer.1
      rw [Decimal.point] at this
      omega
    have zeros : (d.point - d.length).toNat = d.exponent.toNat := by
      rw [Decimal.point]
      congr 1
      omega
    rw [ecmaScript, if_pos integer, zeros, ← digitChars_mul_pow positive] at same
    rw [← digitChars_injective same, Decimal.value]
    push_cast
    rw [← zpow_natCast, Int.toNat_of_nonneg exponent]
  · obtain ⟨c, member, not⟩ := ecmaScript_other integer
    have digit : c.isDigit = true :=
      Nat.isDigit_of_mem_toDigits (by decide) (by decide) (same ▸ member)
    exact absurd (not.symm.trans digit) Bool.false_ne_true

/-- Below 2^53, the gaps are not greater than one. -/
theorem unit_le_one {n i : Nat} (inside : n ≤ infinityBits) (value : magnitude n = i)
    (less : i < 2 ^ 53) : (Binary.nth n).unit ≤ 1 := by
  by_contra! greater
  have exponent : 0 < (Binary.nth n).exponent := by
    rw [Binary.unit] at greater
    exact (zpow_lt_zpow_iff_right₀ (by decide : (1 : ℚ) < 2)).1 (by rwa [zpow_zero])
  have two : 2 ≤ (Binary.nth n).unit := by
    have power := zpow_le_zpow_right₀ (by decide : (1 : ℚ) ≤ 2) (Int.add_one_le_of_lt exponent)
    rw [zero_add, zpow_one] at power
    exact power
  have normal : 2 ^ 52 ≤ (Binary.nth n).mantissa := by
    obtain small | ⟨e, f, normal, fits, below, rfl⟩ := Binary.bits_cases inside
    · rw [Binary.nth_small small] at exponent
      exact absurd exponent (by decide : ¬ (0 : Int) < -1074)
    · rw [Binary.nth_normal normal fits below]
      exact Nat.le_add_right _ _
  have great : (2 : ℚ) ^ 52 * 2 ≤ i := by
    rw [← value, magnitude, Binary.value]
    exact mul_le_mul (by exact_mod_cast normal) two (by decide) (Nat.cast_nonneg _)
  have : (i : ℚ) < 2 ^ 53 := by exact_mod_cast less
  linarith

/-- Below 2^53, the shortest decimal that is read as an integer is this integer. -/
theorem IsShortest.value_of_lt {n i : Nat} {d : Decimal} (short : IsShortest (n + 1) d)
    (value : magnitude (n + 1) = i) (less : i < 2 ^ 53) : d.value = i := by
  have inside := short.reads.1
  have reads : RoundsTo (whole i).value (n + 1) := by
    rw [whole_value, ← value]
    exact roundsTo_magnitude inside
  rcases le_or_gt 0 d.exponent with integer | part
  · -- two integers are not as near as half of a gap
    have split : d.value = (d.digits * 10 ^ d.exponent.toNat : Nat) := by
      rw [Decimal.value, Nat.cast_mul, Nat.cast_pow, Nat.cast_ofNat, ← zpow_natCast,
        Int.toNat_of_nonneg integer]
    have unit := unit_le_one inside.le value less
    have up := magnitude_succ inside
    have down : magnitude (n + 1) - (Binary.nth (n + 1)).unit ≤ magnitude n := by
      rw [magnitude_pred inside.le]
      have positive := (Binary.nth (n + 1)).unit_pos
      split
      · linarith
      · linarith
    have near : 2 * d.value ≤ 2 * i + 1 ∧ 2 * (i : ℚ) ≤ 2 * d.value + 1 := by
      rw [value] at up down
      rcases (roundsTo_iff inside).1 short.reads with ⟨above, below⟩ | ⟨-, above, below⟩
      · rw [value] at above below
        constructor <;> linarith
      · rw [value] at above below
        constructor <;> linarith
    rw [split] at near ⊢
    have low : 2 * (d.digits * 10 ^ d.exponent.toNat) ≤ 2 * i + 1 := by exact_mod_cast near.1
    have high : 2 * i ≤ 2 * (d.digits * 10 ^ d.exponent.toNat) + 1 := by exact_mod_cast near.2
    rw [show d.digits * 10 ^ d.exponent.toNat = i by omega]
  · -- a decimal below the power of ten of the integer is no nearer than this power
    have small : d.point ≤ (whole i).point - 1 := by
      have few := short.fewest _ reads
      rw [Decimal.point, Decimal.point, whole]
      rw [whole] at few
      simp only
      omega
    have under := d.value_lt.trans_le (zpow_le_zpow_right₀ (by decide : (1 : ℚ) ≤ 10) small)
    have beyond := Decimal.le_value reads.digits_pos
    have power : (Decimal.mk 1 ((whole i).point - 1)).value = 10 ^ ((whole i).point - 1) := by
      rw [Decimal.value, Nat.cast_one, one_mul]
    have single : (Decimal.mk 1 ((whole i).point - 1)).length ≤ 1 :=
      (Decimal.length_le_iff Nat.one_pos).2 (by decide : 1 < 10 ^ 1)
    have reads' := power ▸ short.reads.between reads under.le beyond
    have same : (Decimal.mk 1 ((whole i).point - 1)).length = d.length :=
      le_antisymm (single.trans d.length_pos) (short.fewest _ reads')
    have nearest := short.nearest _ reads' same
    rw [whole_value] at beyond
    rw [power, value, abs_of_nonpos (sub_nonpos.2 (under.le.trans beyond)),
      abs_of_nonpos (sub_nonpos.2 beyond)] at nearest
    linarith

/-! ## The text of a number -/

/-- The exponent of a finite number is not the one of infinity. -/
theorem magnitudeBits_lt {x : Float} (number : x.isNaN = false) (finite : x.isInf = false) :
    magnitudeBits x < infinityBits := by
  have exponent : x.toBits.toNat / 2 ^ 52 % 2 ^ 11 ≠ 2047 := by
    intro last
    have field : @Float.Model.UnpackedFloat.unpackExponent .binary64 x.toModel.toBits.toBitVec =
        -1#(Float.Model.Format.binary64.exponentBits) := by
      apply BitVec.eq_of_toNat_eq
      change x.toBits.toNat >>> 52 % 2 ^ 11 = 2047
      rw [Nat.shiftRight_eq_div_pow]
      exact last
    rw [Float.isNaN, Float.Model.isNaN, Float.Model.unpack, Float.Model.UnpackedFloat.unpack,
      if_pos field] at number
    rw [Float.isInf, Float.Model.isInf, Float.Model.unpack, Float.Model.UnpackedFloat.unpack,
      if_pos field] at finite
    split at number
    · rename_i zero
      rw [if_pos zero] at finite
      cases finite
    · cases number
  rw [magnitudeBits, infinityBits]
  omega

theorem text_eq {x : Float} (number : x.isNaN = false) (finite : x.isInf = false) :
    text x = if magnitudeBits x = 0 then "0"
      else String.ofList (sign x ++ magnitudeText (Binary.nth (magnitudeBits x))) := by
  have inside := magnitudeBits_lt number finite
  have magnitude : Binary.ofFloat x = Binary.nth (magnitudeBits x) := Binary.ofBits_eq_nth _
  rw [text, number, finite, magnitude, sign]
  simp only [Bool.false_eq_true, if_false, beq_iff_eq]
  congr 1
  rw [eq_iff_iff]
  constructor
  · intro none
    by_contra positive
    exact absurd none (Binary.mantissa_pos (Nat.pos_of_ne_zero positive) inside.le).ne'
  · intro none
    rw [none, Binary.nth_small (by decide)]

theorem magnitudeText_cases (x : Binary) :
    magnitudeText x =
      if -6 < (x.shortest .up).point ∧ (x.shortest .up).point ≤ 21 then
        match x.toNat? with
        | some i => digitChars i
        | none => positional (digitChars (x.shortest .up).digits) (x.shortest .up).point
      else scientific (digitChars (x.shortest .up).digits) ((x.shortest .up).point - 1) := by
  rw [magnitudeText]
  simp only [Bool.and_eq_true, decide_eq_true_eq]
  rfl

/-- The text of a magnitude: integers below 10^21 with all their digits, and everything else as
ECMAScript does. -/
theorem magnitudeText_spec {n : Nat} (inside : n + 1 < infinityBits) :
    (∀ i : Nat, magnitude (n + 1) = i → i < 10 ^ 21 →
      magnitudeText (Binary.nth (n + 1)) = digitChars i) ∧
    ((∀ i : Nat, magnitude (n + 1) = i → ¬ i < 10 ^ 21) →
      magnitudeText (Binary.nth (n + 1)) = ((Binary.nth (n + 1)).shortest .up).ecmaScript) := by
  have range := (Binary.shortest_spec .up inside).1.positional_iff
  have positive := magnitude_pos n.succ_pos inside.le
  have below (i : Nat) (value : magnitude (n + 1) = i) :
      magnitude (n + 1) < 10 ^ (21 : Int) ↔ i < 10 ^ 21 := by
    rw [value]
    exact_mod_cast Iff.rfl
  rw [magnitudeText_cases]
  constructor
  · intro i value less
    have one : (1 : ℚ) ≤ magnitude (n + 1) := by
      rw [value] at positive ⊢
      exact_mod_cast positive
    have here := range.2 ⟨millionth_le_one.trans one, (below i value).2 less⟩
    rw [if_pos here, ((Binary.nth (n + 1)).toNat?_eq_some_iff i).2 value]
  · intro none
    rw [Decimal.ecmaScript_eq]
    split
    · rename_i here
      have other : (Binary.nth (n + 1)).toNat? = Option.none := by
        rw [Option.eq_none_iff_forall_ne_some]
        intro i some
        have value := (Binary.toNat?_eq_some_iff _ i).1 some
        exact none i value ((below i value).1 (range.1 here).2)
      rw [other]
    · rfl

/-- Where the number itself has a decimal with so few digits, the shortest decimals are it. -/
theorem IsShortest.value_eq {n : Nat} {d d' : Decimal} (short : IsShortest n d)
    (value : d'.value = magnitude n) (few : d'.length ≤ d.length) : d.value = magnitude n := by
  have reads : RoundsTo d'.value n := value ▸ roundsTo_magnitude short.reads.1
  have nearest := short.nearest _ reads (le_antisymm few (short.fewest _ reads))
  rw [value, sub_self, abs_zero] at nearest
  exact sub_eq_zero.1 (abs_eq_zero.1 (le_antisymm nearest (abs_nonneg _)))

/-- Zero is its own shortest decimal. -/
theorem IsShortest.value_zero {d : Decimal} (short : IsShortest 0 d) : d.value = magnitude 0 := by
  have zero : (whole 0).value = magnitude 0 := by rw [whole_value, magnitude_zero, Nat.cast_zero]
  exact short.value_eq zero d.length_pos

/-- The text of a magnitude is what ECMAScript writes but for integers below 10^21 that are not the
value of their shortest decimals. -/
theorem ecmaScript_magnitudeText_iff {n : Nat} (inside : n + 1 < infinityBits) :
    (∃ d, IsShortest (n + 1) d ∧ magnitudeText (Binary.nth (n + 1)) = d.ecmaScript) ↔
      ∀ i : Nat, magnitude (n + 1) = i → i < 10 ^ 21 →
        ∀ d, IsShortest (n + 1) d → d.value = i := by
  obtain ⟨whole, other⟩ := magnitudeText_spec inside
  have found := (Binary.shortest_spec .up inside).1
  constructor
  · rintro ⟨d, short, same⟩ i value less d' short'
    rw [whole i value less] at same
    have exact := Decimal.value_of_ecmaScript short.reads.digits_pos same.symm
    rw [← value] at exact ⊢
    exact short'.value_eq exact (short.fewest _ short'.reads)
  · intro integers
    by_cases integer : ∃ i : Nat, magnitude (n + 1) = i ∧ i < 10 ^ 21
    · obtain ⟨i, value, less⟩ := integer
      have exact := integers i value less _ found
      have reads : RoundsTo (Number.whole i).value (n + 1) := by
        rw [whole_value, ← exact]
        exact found.reads
      refine ⟨_, found, (whole i value less).trans ?_⟩
      refine (Decimal.ecmaScript_of_value found.reads.digits_pos (found.fewest _ reads) exact ?_).symm
      rw [← not_lt, Decimal.lt_point_iff found.reads.digits_pos, exact, not_le]
      exact_mod_cast less
    · exact ⟨_, found, other fun i value less => integer ⟨i, value, less⟩⟩

/-- So it is with the text of a number. -/
theorem isEcmaScript_text_iff {x : Float} (number : x.isNaN = false) (finite : x.isInf = false) :
    IsEcmaScript x (text x) ↔
      ∀ i : Nat, magnitude (magnitudeBits x) = i → i < 10 ^ 21 →
        ∀ d, IsShortest (magnitudeBits x) d → d.value = i := by
  have inside := magnitudeBits_lt number finite
  rw [text_eq number finite, IsEcmaScript]
  cases bits : magnitudeBits x with
  | zero =>
      rw [if_pos rfl, if_pos rfl, eq_self, true_iff]
      intro i value _ d short
      exact short.value_zero.trans value
  | succ n =>
      rw [bits] at inside
      rw [← ecmaScript_magnitudeText_iff inside, if_neg n.succ_ne_zero, if_neg n.succ_ne_zero]
      simp only [String.ofList_inj, List.append_cancel_left_eq]

/-- The text of a finite number.  Both zeros are written 0.  Any other has shortest decimals, of 17
digits at most, and they have no exponent from 1e-6 up to 1e21.  An integer below 1e21 is written
with all its digits, every other number as a shortest decimal of it.  So the text is what
ECMAScript writes for all numbers but the integers below 1e21 that are not the value of their
shortest decimals, which are not below 2^53. -/
theorem text_spec (x : Float) (number : x.isNaN = false) (finite : x.isInf = false) :
    (magnitudeBits x = 0 → text x = "0") ∧
    (magnitudeBits x ≠ 0 → ∃ d, IsShortest (magnitudeBits x) d ∧ d.length ≤ 17 ∧
      ((-6 < d.point ∧ d.point ≤ 21) ↔ magnitude millionthBits ≤ magnitude (magnitudeBits x) ∧
        magnitude (magnitudeBits x) < 10 ^ (21 : Int)) ∧
      (∀ i : Nat, magnitude (magnitudeBits x) = i → i < 10 ^ 21 →
        text x = String.ofList (sign x ++ digitChars i)) ∧
      ((∀ i : Nat, magnitude (magnitudeBits x) = i → ¬ i < 10 ^ 21) →
        text x = String.ofList (sign x ++ d.ecmaScript))) ∧
    (IsEcmaScript x (text x) ↔ ∀ i : Nat, magnitude (magnitudeBits x) = i → i < 10 ^ 21 →
      ∀ d, IsShortest (magnitudeBits x) d → d.value = i) ∧
    ∀ i : Nat, magnitude (magnitudeBits x) = i → i < 2 ^ 53 → IsEcmaScript x (text x) := by
  have inside := magnitudeBits_lt number finite
  have same := isEcmaScript_text_iff number finite
  have text := text_eq number finite
  refine ⟨fun zero => ?_, fun nonzero => ?_, same, fun i value less => ?_⟩
  · rw [text, if_pos zero]
  · obtain ⟨n, bits⟩ := Nat.exists_eq_succ_of_ne_zero nonzero
    rw [if_neg nonzero] at text
    rw [bits] at inside text ⊢
    obtain ⟨short, few⟩ := Binary.shortest_spec .up inside
    obtain ⟨whole, other⟩ := magnitudeText_spec inside
    refine ⟨_, short, few, short.positional_iff, fun i value less => ?_, fun none => ?_⟩
    · rw [text, whole i value less]
    · rw [text, other none]
  · refine same.2 fun j value' _ d short => ?_
    obtain rfl : i = j := Nat.cast_injective (value.symm.trans value')
    cases bits : magnitudeBits x with
    | zero =>
        rw [bits] at short value
        exact short.value_zero.trans value
    | succ n =>
        rw [bits] at short value
        exact short.value_of_lt value less

/-- A small integer is written as in ECMAScript. -/
theorem text_spec_42 :
    let x := Float.ofBits 0x4045000000000000
    x.isNaN = false ∧ x.isInf = false ∧ text x = "42" ∧ IsEcmaScript x (text x) := by
  intro x
  have value : magnitude (magnitudeBits x) = (42 : Nat) := by
    rw [magnitude, show Binary.nth (magnitudeBits x) = ⟨0x15000000000000, -47, false⟩ by decide,
      Binary.value, Binary.unit]
    norm_num
  have number : x.isNaN = false := by decide
  have finite : x.isInf = false := by decide
  obtain ⟨-, -, -, same⟩ := text_spec x number finite
  exact ⟨number, finite, by decide +kernel, same 42 value (by decide)⟩

/-- All digits of 2^55 are written, while the shortest decimal that is read as it is another
integer: ECMAScript writes 36028797018963970. -/
theorem text_not_ecmaScript :
    let x := Float.ofBits 0x4360000000000000
    x.isNaN = false ∧ x.isInf = false ∧ text x = "36028797018963968" ∧
      ¬ IsEcmaScript x (text x) ∧ IsEcmaScript x "36028797018963970" := by
  intro x
  have bits : magnitudeBits x = 0x435FFFFFFFFFFFFF + 1 := by decide
  have short := (Binary.shortest_spec (n := 0x435FFFFFFFFFFFFF) .up (by decide)).1
  have found : (Binary.nth (0x435FFFFFFFFFFFFF + 1)).shortest .up = ⟨3602879701896397, 1⟩ := by
    decide +kernel
  rw [found] at short
  have number : x.isNaN = false := by decide
  have finite : x.isInf = false := by decide
  refine ⟨number, finite, by decide +kernel, fun same => ?_, ?_⟩
  · have value : magnitude (magnitudeBits x) = (2 ^ 55 : Nat) := by
      rw [magnitude, show Binary.nth (magnitudeBits x) = ⟨2 ^ 52, 3, true⟩ by decide, Binary.value,
        Binary.unit]
      norm_num
    have exact := (isEcmaScript_text_iff number finite).1 same _ value (by decide) _ (bits ▸ short)
    rw [Decimal.value] at exact
    norm_num at exact
  · rw [IsEcmaScript, if_neg (by rw [bits]; decide)]
    exact ⟨_, bits ▸ short, by decide +kernel⟩

end LiveTemplates.Number
