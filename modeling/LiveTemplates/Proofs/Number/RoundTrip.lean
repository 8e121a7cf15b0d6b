/-
# LiveTemplates.Proofs.Number.RoundTrip -- numbers survive the trip through text

The text of a number is read as the number again.  Its digits are a decimal that identifies the
number, whether they are all there are or the fewest, and wherever they put the point and the
exponent; and decimals are read as the nearest double.

* `Spells`: the unsigned decimals with a digit in front, and what they stand for;
* `Spells.magnitude?_eq`, `Spells.read?_eq`: they are read as the nearest double;
* `spells_positional`, `spells_scientific`, `spells_magnitudeText`: the text of a positive number is
  such a decimal, in each of its forms;
* `Value.toNumber_display`: so every number is the number of its text but for the sign of zero, and
  is loosely equal to its text unless it is no number.
-/
import LiveTemplates.Value
import LiveTemplates.Proofs.Number.Notation
import LiveTemplates.Proofs.Number.Rounding

namespace LiveTemplates.Number

set_option autoImplicit false

open Float.Model (UnpackedFloat)
open Float.Model.UnpackedFloat (Sign unpackExponent unpackMantissa)

/-! ## Digits -/

theorem isDigit_of_mem_digitChars {n : Nat} {c : Char} (member : c ∈ digitChars n) :
    isDigit c = true := by
  have digit := Nat.isDigit_of_mem_toDigits (by decide) (by decide) member
  simpa [isDigit, Char.isDigit, Char.le_def] using digit

theorem isDigit_zeros {k : Nat} {c : Char} (member : c ∈ List.replicate k '0') :
    isDigit c = true := by
  obtain rfl := List.eq_of_mem_replicate member
  decide

theorem ofDigits_eq (ds : List Char) : ofDigits ds = Nat.ofDigitChars 10 ds 0 := rfl

theorem ofDigits_digitChars (n : Nat) : ofDigits (digitChars n) = n :=
  Nat.ofDigitChars_ten_toDigits

theorem ofDigits_zeros_append (k : Nat) (ds : List Char) :
    ofDigits (List.replicate k '0' ++ ds) = ofDigits ds := by
  rw [ofDigits_eq, Nat.ofDigitChars_append, Nat.ofDigitChars_replicate_zero, Nat.mul_zero,
    ofDigits_eq]

theorem ofDigits_append_zeros (ds : List Char) (k : Nat) :
    ofDigits (ds ++ List.replicate k '0') = ofDigits ds * 10 ^ k := by
  rw [ofDigits_eq, Nat.ofDigitChars_append, Nat.ofDigitChars_replicate_zero, ofDigits_eq,
    Nat.mul_comm]

/-! ## The grammar of decimals -/

/-- What stands behind the digits of a decimal: its exponent, if it is written. -/
inductive Tail : List Char → Int → Prop
  | none : Tail [] 0
  | signed (e : Int) : Tail ('e' :: (if e < 0 then '-' else '+') :: digitChars e.natAbs) e

/-- An unsigned decimal with a digit in front, and what it stands for. -/
inductive Spells : List Char → Decimal → Prop
  | whole {ds tail : List Char} {e : Int} (digits : ∀ c ∈ ds, isDigit c = true) (some : ds ≠ [])
      (ends : Tail tail e) : Spells (ds ++ tail) ⟨ofDigits ds, e⟩
  | point {ds fs tail : List Char} {e : Int} (digits : ∀ c ∈ ds, isDigit c = true)
      (some : ds ≠ []) (fraction : ∀ c ∈ fs, isDigit c = true) (ends : Tail tail e) :
      Spells (ds ++ '.' :: (fs ++ tail)) ⟨ofDigits (ds ++ fs), e - fs.length⟩

theorem exponent?_signed (e : Int) :
    exponent? ((if e < 0 then '-' else '+') :: digitChars e.natAbs) = some e := by
  have digits : (digitChars e.natAbs).all isDigit = true :=
    List.all_eq_true.2 fun c => isDigit_of_mem_digitChars
  have some : (digitChars e.natAbs).isEmpty = false := by
    rw [List.isEmpty_eq_false_iff]
    exact Nat.toDigits_ne_nil
  split
  · rename_i negative
    simp only [exponent?, digits, some, ofDigits_digitChars, Bool.not_true, Bool.or_self,
      Bool.false_eq_true, if_false, if_true, Option.some.injEq]
    omega
  · rename_i other
    simp only [exponent?, digits, some, ofDigits_digitChars, Bool.not_true, Bool.or_self,
      Bool.false_eq_true, if_false, Option.some.injEq]
    omega

/-- Behind the digits there is no other digit, and no point. -/
theorem Tail.takeWhile_append {ds tail : List Char} {e : Int} (ends : Tail tail e)
    (digits : ∀ c ∈ ds, isDigit c = true) :
    (ds ++ tail).takeWhile isDigit = ds ∧ (ds ++ tail).dropWhile isDigit = tail := by
  rw [List.takeWhile_append_of_pos digits, List.dropWhile_append_of_pos digits]
  cases ends with
  | none => simp
  | signed e => simp [isDigit]

theorem Spells.magnitude?_eq {cs : List Char} {d : Decimal} (spells : Spells cs d) :
    magnitude? cs = some (nearest d.digits d.exponent) := by
  cases spells with
  | whole digits some ends =>
      obtain ⟨taken, rest⟩ := ends.takeWhile_append digits
      simp only [magnitude?, taken, rest]
      cases ends with
      | none => simp [some]
      | signed e => simp [some, exponent?_signed]
  | @point ds fs tail e digits some fraction ends =>
      obtain ⟨taken, rest⟩ := ends.takeWhile_append fraction
      have taken' : (ds ++ '.' :: (fs ++ tail)).takeWhile isDigit = ds := by
        rw [List.takeWhile_append_of_pos digits]
        simp [isDigit]
      have rest' : (ds ++ '.' :: (fs ++ tail)).dropWhile isDigit = '.' :: (fs ++ tail) := by
        rw [List.dropWhile_append_of_pos digits]
        simp [isDigit]
      simp only [magnitude?, taken, rest, taken', rest']
      cases ends with
      | none => simp [some]
      | signed e => simp [some, exponent?_signed]

/-! ## Characters -/

theorem isDigit_iff (c : Char) : isDigit c = true ↔ 48 ≤ c.toNat ∧ c.toNat ≤ 57 := by
  simp [isDigit, Char.le_def, UInt32.le_iff_toNat_le]

/-- The visible characters of ASCII are no blanks. -/
theorem isBlank_of_visible {c : Char} (above : 0x20 < c.toNat) (below : c.toNat < 0x7F) :
    Text.isBlank c = false := by
  rw [Text.isBlank, Text.blankBounds]
  simp only [Text.CharSet.contains]
  rw [if_neg (by omega), if_neg (by omega), if_neg (by omega), if_neg (by omega),
    if_pos (by omega)]
  rfl

theorem isBlank_of_isDigit {c : Char} (digit : isDigit c = true) : Text.isBlank c = false := by
  rw [isDigit_iff] at digit
  exact isBlank_of_visible (by omega) (by omega)

/-- There are no blanks in a decimal. -/
theorem Tail.not_blank {tail : List Char} {e : Int} (ends : Tail tail e) :
    ∀ c ∈ tail, Text.isBlank c = false := by
  cases ends with
  | none => simp
  | signed e =>
      intro c member
      rw [List.mem_cons, List.mem_cons] at member
      rcases member with rfl | rfl | digit
      · exact isBlank_of_visible (by decide) (by decide)
      · split <;> exact isBlank_of_visible (by decide) (by decide)
      · exact isBlank_of_isDigit (isDigit_of_mem_digitChars digit)

theorem Spells.not_blank {cs : List Char} {d : Decimal} (spells : Spells cs d) :
    ∀ c ∈ cs, Text.isBlank c = false := by
  intro c member
  cases spells with
  | whole digits some ends =>
      rcases List.mem_append.1 member with digit | last
      · exact isBlank_of_isDigit (digits c digit)
      · exact ends.not_blank c last
  | point digits some fraction ends =>
      rw [List.mem_append, List.mem_cons, List.mem_append] at member
      rcases member with digit | rfl | digit | last
      · exact isBlank_of_isDigit (digits c digit)
      · exact isBlank_of_visible (by decide) (by decide)
      · exact isBlank_of_isDigit (fraction c digit)
      · exact ends.not_blank c last

theorem Spells.first {cs : List Char} {d : Decimal} (spells : Spells cs d) :
    ∃ c rest, cs = c :: rest ∧ isDigit c = true := by
  cases spells with
  | whole digits some _ =>
      obtain ⟨c, rest, rfl⟩ := List.exists_cons_of_ne_nil some
      exact ⟨c, _, rfl, digits c List.mem_cons_self⟩
  | point digits some _ _ =>
      obtain ⟨c, rest, rfl⟩ := List.exists_cons_of_ne_nil some
      exact ⟨c, _, rfl, digits c List.mem_cons_self⟩

/-- What has no blanks is not trimmed. -/
theorem trimChars_of_not_blank {cs : List Char} (plain : ∀ c ∈ cs, Text.isBlank c = false) :
    Text.trimChars cs = cs := by
  have kept : ∀ ds : List Char, (∀ c ∈ ds, Text.isBlank c = false) →
      ds.dropWhile Text.isBlank = ds := by
    intro ds plain
    cases ds with
    | nil => rfl
    | cons c rest => exact List.dropWhile_cons_of_neg (by simp [plain c List.mem_cons_self])
  rw [Text.trimChars, kept cs plain, kept _ fun c member => plain c (List.mem_reverse.1 member),
    List.reverse_reverse]

theorem toLower_of_isDigit {c : Char} (digit : isDigit c = true) : c.toLower = c := by
  rw [isDigit_iff] at digit
  refine dif_neg fun capital => ?_
  have above : 65 ≤ c.toNat := UInt32.le_iff_toNat_le.1 capital.1
  omega

/-- A word of letters does not start with a digit. -/
theorem lowered_ne {c l : Char} {letters : List Char} (rest : List Char) (word : String)
    (digit : isDigit c = true) (spelled : word.toList = l :: letters)
    (letter : isDigit l = false) :
    (String.ofList ((c :: rest).map Char.toLower) == word) = false := by
  rw [beq_eq_false_iff_ne]
  intro same
  have chars := congrArg String.toList same
  rw [spelled, String.toList_ofList, List.map_cons, toLower_of_isDigit digit] at chars
  rw [(List.cons.inj chars).1, letter] at digit
  cases digit

/-- Decimals are read as the nearest double, behind a sign as the opposite of it. -/
theorem Spells.read?_eq {cs : List Char} {d : Decimal} (spells : Spells cs d) :
    read? cs = some (nearest d.digits d.exponent) ∧
      read? ('-' :: cs) = some (-nearest d.digits d.exponent) := by
  have reads := spells.magnitude?_eq
  obtain ⟨c, rest, rfl, digit⟩ := spells.first
  have inf := lowered_ne rest "inf" digit rfl rfl
  have infinity := lowered_ne rest "infinity" digit rfl rfl
  have nan := lowered_ne rest "nan" digit rfl rfl
  constructor
  · rw [read?]
    · simp only [inf, infinity, nan, reads]
      rfl
    · rintro _ same
      rw [(List.cons.inj same).1] at digit
      cases digit
    · rintro _ same
      rw [(List.cons.inj same).1] at digit
      cases digit
  · rw [read?]
    simp only [inf, infinity, nan, reads]
    rfl

/-! ## The text of a number is a decimal -/

theorem isDigit_digits (d : Decimal) : ∀ c ∈ digitChars d.digits, isDigit c = true :=
  fun _ => isDigit_of_mem_digitChars

/-- The point stands in front of all digits, and zeros between them. -/
theorem spells_low {d : Decimal} (low : d.point ≤ 0) :
    Spells ('0' :: '.' :: (List.replicate (-d.point).toNat '0' ++ digitChars d.digits)) d := by
  have length : (digitChars d.digits).length = d.length := rfl
  have point : d.point = d.length + d.exponent := rfl
  have fraction : ∀ c ∈ List.replicate (-d.point).toNat '0' ++ digitChars d.digits,
      isDigit c = true := fun c member =>
    (List.mem_append.1 member).elim isDigit_zeros (isDigit_digits d c)
  have zero : ∀ c ∈ ['0'], isDigit c = true := List.forall_mem_singleton.2 rfl
  have spells := Spells.point zero (List.cons_ne_nil _ _) fraction .none
  have read : ofDigits (['0'] ++ (List.replicate (-d.point).toNat '0' ++ digitChars d.digits)) =
      d.digits := by
    rw [← List.append_assoc, List.singleton_append, ← List.replicate_succ, ofDigits_zeros_append,
      ofDigits_digitChars]
  have exponent : 0 - ((List.replicate (-d.point).toNat '0' ++
      digitChars d.digits).length : Int) = d.exponent := by
    rw [List.length_append, List.length_replicate, length]
    omega
  rw [read, exponent, List.append_nil] at spells
  exact spells

/-- There is no point, but zeros behind the digits. -/
theorem spells_zeros (d : Decimal) (k : Nat) :
    Spells (digitChars d.digits ++ List.replicate k '0') ⟨d.digits * 10 ^ k, 0⟩ := by
  have all : ∀ c ∈ digitChars d.digits ++ List.replicate k '0', isDigit c = true :=
    fun c member => (List.mem_append.1 member).elim (isDigit_digits d c) isDigit_zeros
  have spells := Spells.whole all (List.append_ne_nil_of_left_ne_nil Nat.toDigits_ne_nil _) .none
  rwa [List.append_nil, ofDigits_append_zeros, ofDigits_digitChars] at spells

/-- The point stands between digits. -/
theorem spells_between {d : Decimal} (above : 0 < d.point) (below : d.point < d.length) :
    Spells ((digitChars d.digits).take d.point.toNat ++
      '.' :: (digitChars d.digits).drop d.point.toNat) d := by
  have length : (digitChars d.digits).length = d.length := rfl
  have point : d.point = d.length + d.exponent := rfl
  have front : ∀ c ∈ (digitChars d.digits).take d.point.toNat, isDigit c = true :=
    fun c member => isDigit_digits d c (List.mem_of_mem_take member)
  have behind : ∀ c ∈ (digitChars d.digits).drop d.point.toNat, isDigit c = true :=
    fun c member => isDigit_digits d c (List.mem_of_mem_drop member)
  have nonempty : (digitChars d.digits).take d.point.toNat ≠ [] := by
    rw [← List.length_pos_iff, List.length_take]
    omega
  have exponent : 0 - ((d.length - d.point.toNat : Nat) : Int) = d.exponent := by omega
  have spells := Spells.point front nonempty behind .none
  rw [List.take_append_drop, ofDigits_digitChars, List.append_nil, List.length_drop, length,
    exponent] at spells
  exact spells

/-- Digits with a point or zeros are the same decimal. -/
theorem spells_positional (d : Decimal) :
    ∃ d', Spells (positional (digitChars d.digits) d.point) d' ∧ d'.value = d.value := by
  have length : (digitChars d.digits).length = d.length := rfl
  have point : d.point = d.length + d.exponent := rfl
  rw [positional]
  split
  · rename_i low
    exact ⟨d, spells_low low, rfl⟩
  · rename_i above
    split
    · rename_i whole
      obtain ⟨k, zeros⟩ := Int.eq_ofNat_of_zero_le (show 0 ≤ d.exponent by omega)
      have count : d.point.toNat - (digitChars d.digits).length = k := by omega
      rw [count]
      refine ⟨_, spells_zeros d k, ?_⟩
      rw [Decimal.value, Decimal.value, zeros, zpow_zero, mul_one, zpow_natCast]
      push_cast
      rfl
    · rename_i below
      exact ⟨d, spells_between (not_le.1 above) (not_le.1 below), rfl⟩

/-- So they are with an exponent. -/
theorem spells_scientific (d : Decimal) :
    Spells (scientific (digitChars d.digits) (d.point - 1)) d := by
  have digits := isDigit_digits d
  have read := ofDigits_digitChars d.digits
  have length : (digitChars d.digits).length = d.length := rfl
  have point : d.point = d.length + d.exponent := rfl
  obtain ⟨c, rest, split⟩ := List.exists_cons_of_length_pos (length ▸ d.length_pos)
  rw [split] at digits read length ⊢
  rw [List.length_cons] at length
  rw [scientific_cons]
  by_cases single : rest = []
  · have spells := Spells.whole digits (List.cons_ne_nil _ _) (.signed (d.point - 1))
    have exponent : d.point - 1 = d.exponent := by
      rw [single, List.length_nil] at length
      omega
    have same : (⟨d.digits, d.point - 1⟩ : Decimal) = d := by rw [exponent]
    rw [read, same, single] at spells
    rw [if_pos single]
    exact spells
  · have first : ∀ k ∈ [c], isDigit k = true :=
      List.forall_mem_singleton.2 (digits c List.mem_cons_self)
    have fraction : ∀ k ∈ rest, isDigit k = true := fun k member =>
      digits k (List.mem_cons_of_mem _ member)
    have spells := Spells.point first (List.cons_ne_nil _ _) fraction (.signed (d.point - 1))
    have exponent : d.point - 1 - rest.length = d.exponent := by omega
    have read : ofDigits ([c] ++ rest) = d.digits := read
    rw [read, exponent] at spells
    rw [if_neg single]
    exact spells

/-- The text of a magnitude is a decimal that is read as it. -/
theorem spells_magnitudeText {n : Nat} (inside : n + 1 < infinityBits) :
    ∃ d, Spells (magnitudeText (Binary.nth (n + 1))) d ∧ RoundsTo d.value (n + 1) := by
  have short := (Binary.shortest_spec .up inside).1.reads
  rw [magnitudeText_cases]
  split
  · cases integer : (Binary.nth (n + 1)).toNat? with
    | some i =>
        have value : magnitude (n + 1) = i := (Binary.toNat?_eq_some_iff _ _).1 integer
        have spells : Spells (digitChars i ++ []) ⟨ofDigits (digitChars i), 0⟩ :=
          .whole (fun c => isDigit_of_mem_digitChars) Nat.toDigits_ne_nil .none
        rw [List.append_nil, ofDigits_digitChars] at spells
        refine ⟨_, spells, ?_⟩
        rw [← whole, whole_value, ← value]
        exact roundsTo_magnitude inside
    | none =>
        obtain ⟨d, spells, same⟩ := spells_positional ((Binary.nth (n + 1)).shortest .up)
        exact ⟨d, spells, same ▸ short⟩
  · exact ⟨_, spells_scientific _, short⟩

/-! ## Equal numbers -/

/-- A number is told by its magnitude and its sign. -/
theorem eq_of_magnitudeBits {x y : Float} (positive : IsPositive y)
    (bits : magnitudeBits x = y.toBits.toNat) : x = if isNegative x then -y else y := by
  have word : x.toBits.toNat < 2 ^ 64 := x.toBits.toNat_lt
  have last : (x.toBits >>> 63).toNat = x.toBits.toNat / 2 ^ 63 := by
    rw [UInt64.toNat_shiftRight, ← Nat.shiftRight_eq_div_pow]
    rfl
  have negative : isNegative x = true ↔ 2 ^ 63 ≤ x.toBits.toNat := by
    rw [isNegative, bne_iff_ne, ne_eq, ← UInt64.toNat_inj, last]
    change ¬ _ = 0 ↔ _
    omega
  rw [magnitudeBits] at bits
  refine ext_toBits ?_
  split
  · rename_i minus
    rw [negative] at minus
    rw [toBits_neg positive]
    omega
  · rename_i plus
    rw [negative] at plus
    omega

theorem isNaN_eq (x : Float) : x.isNaN = x.toModel.unpack.isNaN := rfl

theorem beq_eq (x y : Float) :
    (x == y) = (x.toModel.unpack.compare y.toModel.unpack == some .eq) := rfl

end LiveTemplates.Number

namespace LiveTemplates.Value

open Number

/-! ## The trip through text -/

/-- The number of a decimal text, and of one behind a sign. -/
theorem textToNumber_spells {cs : List Char} {d : Decimal} (spells : Spells cs d) :
    textToNumber (String.ofList cs) = nearest d.digits d.exponent ∧
      textToNumber (String.ofList ('-' :: cs)) = -nearest d.digits d.exponent := by
  have plain := spells.not_blank
  have signed : ∀ c ∈ '-' :: cs, Text.isBlank c = false :=
    List.forall_mem_cons.2 ⟨isBlank_of_visible (by decide) (by decide), plain⟩
  obtain ⟨reads, reads'⟩ := spells.read?_eq
  obtain ⟨c, rest, rfl, -⟩ := spells.first
  rw [textToNumber, textToNumber, String.toList_ofList, String.toList_ofList,
    trimChars_of_not_blank plain, trimChars_of_not_blank signed]
  simp only [reads, reads']
  exact ⟨rfl, rfl⟩

/-- The text of a finite number that is not zero is read as the number. -/
theorem textToNumber_finite {x : Float} (number : x.isNaN = false) (finite : x.isInf = false)
    (nonzero : magnitudeBits x ≠ 0) : textToNumber (Number.text x) = x := by
  have inside := magnitudeBits_lt number finite
  have text := text_eq number finite
  obtain ⟨n, bits⟩ := Nat.exists_eq_succ_of_ne_zero nonzero
  rw [if_neg nonzero] at text
  rw [bits] at inside text
  obtain ⟨d, spells, reads⟩ := spells_magnitudeText inside
  obtain ⟨plain, signed⟩ := textToNumber_spells spells
  have word := toBits_nearest reads
  have positive : IsPositive (nearest d.digits d.exponent) :=
    ⟨word ▸ n.succ_pos, word ▸ inside⟩
  have same := eq_of_magnitudeBits positive (bits.trans word.symm)
  rw [text, sign]
  split
  · rename_i negative
    rw [if_pos negative] at same
    exact signed.trans same.symm
  · rename_i other
    rw [if_neg other] at same
    exact plain.trans same.symm

/-- The text of every number is read as the number, but for zero without its sign. -/
theorem textToNumber_text (x : Float) :
    let back := textToNumber (Number.text x)
    back = (if x == 0.0 then 0.0 else x) ∧ back.isNaN = x.isNaN ∧
      (back == x) = !x.isNaN ∧ (x == back) = !x.isNaN := by
  cases Kind.of x with
  | nan _ only =>
      subst only
      decide
  | infinite s _ bits =>
      cases s with
      | positive =>
          obtain rfl : x = 1.0 / 0.0 := ext_toBits (bits.trans (by decide))
          decide
      | negative =>
          obtain rfl : x = -(1.0 / 0.0) := ext_toBits (bits.trans (by decide))
          decide
  | zero s _ bits =>
      cases s with
      | positive =>
          obtain rfl : x = 0.0 := ext_toBits (bits.trans (by decide))
          decide
      | negative =>
          obtain rfl : x = -0.0 := ext_toBits (bits.trans (by decide))
          decide
  | finite s m p nonzero unpack fits normal inside bits =>
      have number : x.isNaN = false := by rw [isNaN_eq, unpack]; rfl
      have finite : x.isInf = false := by rw [Float.isInf, Float.Model.isInf, unpack]; rfl
      have other : ¬ (x == 0.0) = true := by
        have zero : (0.0 : Float).toModel.unpack = .zero .positive := rfl
        rw [beq_eq, zero, unpack]
        cases s <;> exact Bool.false_ne_true
      have positive : magnitudeBits x ≠ 0 := by
        have double : signBits s % 2 ^ 63 = 0 := Nat.mul_mod_left _ _
        rw [infinityBits] at inside
        rw [magnitudeBits]
        omega
      have same : (x == x) = true := by simpa using number
      rw [if_neg other, textToNumber_finite number finite positive, number]
      exact ⟨rfl, number, same, same⟩

/-- The text of every number is read as the number, but for zero without its sign.  So a number is
loosely equal to its text, unless it is no number. -/
theorem toNumber_display (x : Float) :
    toNumber (text (display (number x))) = (if x == 0.0 then 0.0 else x) ∧
      (toNumber (text (display (number x)))).isNaN = x.isNaN ∧
      (toNumber (text (display (number x))) == x) = !x.isNaN ∧
      looseEq (number x) (text (display (number x))) = !x.isNaN ∧
      looseEq (text (display (number x))) (number x) = !x.isNaN := by
  obtain ⟨same, nan, left, right⟩ := textToNumber_text x
  exact ⟨same, nan, left, right, left⟩

/-- The sign of zero is lost. -/
example : toNumber (text (display (number (-0.0)))) = 0.0 := by decide

end LiveTemplates.Value
