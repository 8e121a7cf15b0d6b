/-
# LiveTemplates.Proofs.Text.Uppercase -- capitals have no further capitals

The capital form of a text is its own capital form.  No character of a capital form is in the
tables: the capitals of a run are a run themselves, and this misses every run and every
exception of the tables.

* `CapitalRun.misses`: two runs hold no code point in common, as their ends and their parity
  tell;
* `uppercase_uppercase`: the capital form of a capital form.
-/
import LiveTemplates.Text.Uppercase
import Mathlib.Data.List.Basic

namespace LiveTemplates.Text

set_option autoImplicit false

namespace CapitalRun

/-- A single code point. -/
def single (n : Nat) : CapitalRun :=
  ⟨n, n, 1, 0⟩

/-- The capitals of the code points of a run. -/
def image (r : CapitalRun) : CapitalRun :=
  ⟨((r.first : Int) + r.shift).toNat, ((r.last : Int) + r.shift).toNat, r.step, 0⟩

/-- One run ends in front of the other, or one holds even and the other odd code points. -/
def misses (r s : CapitalRun) : Bool :=
  Nat.blt r.last s.first || Nat.blt s.last r.first ||
    (Nat.beq s.step 2 && (Nat.beq r.step 2 || Nat.beq r.first r.last) &&
      Nat.beq ((r.first + s.first) % 2) 1)

/-- A run misses the small letters and all that is in the tables. -/
def clear (r : CapitalRun) : Bool :=
  (Nat.ble 128 r.first || Nat.blt r.last 97) &&
    (longCapitals.all fun p => r.misses (single p.1)) && capitalRuns.all fun s => r.misses s

theorem holds_iff {r : CapitalRun} {n : Nat} : r.holds n = true ↔
    r.first ≤ n ∧ n ≤ r.last ∧ (n - r.first) % r.step = 0 := by
  simp [holds, and_assoc]

theorem holds_single (n : Nat) : (single n).holds n = true := by
  simp [holds_iff, single]

theorem not_holds_of_misses {r s : CapitalRun} {n : Nat} (misses : r.misses s = true)
    (here : r.holds n = true) : ¬ s.holds n = true := by
  simp only [CapitalRun.misses, Bool.or_eq_true, Bool.and_eq_true, Nat.beq_eq,
    Nat.blt_eq] at misses
  simp only [holds_iff] at here ⊢
  rintro ⟨low, high, even⟩
  rcases misses with (less | more) | ⟨⟨two, r_two | one⟩, parity⟩
  · omega
  · omega
  · rw [two] at even
    rw [r_two] at here
    omega
  · rw [two] at even
    omega

/-- The capital of a code point of a run is in its image. -/
theorem holds_image {r : CapitalRun} {n : Nat} (here : r.holds n = true)
    (positive : 0 ≤ (r.first : Int) + r.shift) :
    r.image.holds ((n : Int) + r.shift).toNat = true := by
  rw [holds_iff] at here ⊢
  obtain ⟨low, high, step⟩ := here
  refine ⟨?_, ?_, ?_⟩
  · simp only [image]
    omega
  · simp only [image]
    omega
  · have same : ((n : Int) + r.shift).toNat - r.image.first = n - r.first := by
      simp only [image]
      omega
    rw [same]
    exact step

end CapitalRun

/-- A code point is no small letter, and in none of the tables. -/
structure Settled (n : Nat) : Prop where
  ascii : n < 128 → n < 97
  long : longCapitals.lookup n = none
  runs : capitalRuns.find? (·.holds n) = none

theorem CapitalRun.settled {r : CapitalRun} {n : Nat} (clear : r.clear = true)
    (here : r.holds n = true) : Settled n := by
  simp only [CapitalRun.clear, Bool.and_eq_true, Bool.or_eq_true, List.all_eq_true, Nat.blt_eq,
    Nat.ble_eq] at clear
  obtain ⟨⟨ascii, long⟩, runs⟩ := clear
  refine ⟨fun small => ?_, ?_, ?_⟩
  · have bounds := holds_iff.1 here
    omega
  · refine List.lookup_eq_none_iff.2 fun p member => bne_iff_ne.2 fun same => ?_
    refine not_holds_of_misses (long p member) here ?_
    rw [same]
    exact holds_single _
  · exact List.find?_eq_none.2 fun s member => not_holds_of_misses (runs s member) here

/-- The tables lead out of themselves. -/
theorem tables_clear :
    (capitalRuns.all fun r => decide (0 ≤ (r.first : Int) + r.shift) && r.image.clear) = true ∧
      (longCapitals.all fun p => p.2.all fun n => (CapitalRun.single n).clear) = true := by
  decide +kernel

theorem uppercaseChar_toUpper : ∀ n < 128, uppercaseChar (Char.ofNat n).toUpper =
    [(Char.ofNat n).toUpper] := by
  decide +kernel

theorem toUpper_of_lt : ∀ n < 97, (Char.ofNat n).toUpper = Char.ofNat n := by
  decide +kernel

/-- A settled code point is its own capital. -/
theorem uppercaseChar_settled {n : Nat} (settled : Settled n) :
    uppercaseChar (Char.ofNat n) = [Char.ofNat n] := by
  by_cases valid : n.isValidChar
  case neg =>
    have zero : Char.ofNat n = '\x00' := by rw [Char.ofNat, dif_neg valid]; rfl
    rw [zero]
    rfl
  case pos =>
    have number : (Char.ofNat n).toNat = n := by
      rw [Char.ofNat, dif_pos valid]
      rfl
    rw [uppercaseChar, number]
    split
    case isTrue small => rw [toUpper_of_lt n (settled.ascii small)]
    case isFalse => rw [settled.long, settled.runs]

/-- Each character of a capital form is its own capital. -/
theorem uppercaseChar_of_mem {c d : Char} (member : d ∈ uppercaseChar c) :
    uppercaseChar d = [d] := by
  obtain ⟨runs, exceptions⟩ := tables_clear
  rw [uppercaseChar] at member
  split at member
  case isTrue small =>
    rw [List.mem_singleton.1 member]
    have same := uppercaseChar_toUpper c.toNat small
    rwa [Char.ofNat_toNat] at same
  case isFalse large =>
    split at member
    case h_1 cs found =>
      obtain ⟨n, listed, rfl⟩ := List.mem_map.1 member
      have entry : (c.toNat, cs) ∈ longCapitals := by
        obtain ⟨front, back, parts, -⟩ := List.lookup_eq_some_iff.1 found
        rw [parts]
        exact List.mem_append_right _ (List.mem_cons_self ..)
      have clear := List.all_eq_true.1 (List.all_eq_true.1 exceptions _ entry) n listed
      exact uppercaseChar_settled (CapitalRun.settled clear (CapitalRun.holds_single n))
    case h_2 long =>
      split at member
      case h_1 r found =>
        obtain ⟨positive, clear⟩ := Bool.and_eq_true_iff.1
          (List.all_eq_true.1 runs r (List.mem_of_find?_eq_some found))
        rw [List.mem_singleton.1 member]
        have here : r.holds c.toNat = true :=
          List.find?_some (p := fun s : CapitalRun => s.holds c.toNat) found
        exact uppercaseChar_settled
          (CapitalRun.settled clear (CapitalRun.holds_image here (of_decide_eq_true positive)))
      case h_2 none =>
        rw [List.mem_singleton.1 member, uppercaseChar, if_neg large, long, none]

/-- The capital form of a capital form. -/
theorem uppercase_uppercase (s : String) : uppercase (uppercase s) = uppercase s := by
  rw [uppercase, uppercase, String.toList_ofList]
  refine congrArg String.ofList ?_
  have single : ∀ d ∈ s.toList.flatMap uppercaseChar, uppercaseChar d = [d] := fun d member =>
    have ⟨_, _, here⟩ := List.mem_flatMap.1 member
    uppercaseChar_of_mem here
  rw [List.flatMap_congr single, List.flatMap_singleton']

end LiveTemplates.Text
