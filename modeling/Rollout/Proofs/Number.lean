import Rollout.Number.Basic

/-!
# Laws of numbers

Integers below 2^53 are representable, so that sums and doubles within this bound are exact.  What
is larger may be rounded, but stays on its side of the bound.
-/

namespace Rollout.Number

theorem powerOf_succ (base exponent : Nat) :
    powerOf base (exponent + 1) = base * powerOf base exponent :=
  Nat.mul_comm (powerOf base exponent) base

theorem powerOf_pos (exponent : Nat) : 0 < powerOf 2 exponent := Nat.two_pow_pos exponent

theorem powerOf_mono {small large : Nat} (le : small ≤ large) :
    powerOf 2 small ≤ powerOf 2 large := Nat.pow_le_pow_right Nat.two_pos le

theorem cancelHalvings_mul (numerator halvings : Nat) :
    cancelHalvings (numerator * powerOf 2 halvings) halvings = (numerator, 0) := by
  induction halvings with
  | zero => rw [cancelHalvings, powerOf, Nat.pow_eq, Nat.pow_zero, Nat.mul_one]
  | succ halvings ih =>
      have doubled : numerator * powerOf 2 (halvings + 1) =
          2 * (numerator * powerOf 2 halvings) := by
        rw [powerOf_succ, Nat.mul_left_comm]
      rw [cancelHalvings, doubled, if_pos (Nat.mul_mod_right 2 _),
        Nat.mul_div_cancel_left _ Nat.two_pos, ih]

theorem roundQuotient_one (numerator : Nat) : roundQuotient numerator 1 = numerator := by
  simp [roundQuotient, Nat.mod_one]

theorem ofBinary_mul (negative : Bool) (numerator halvings : Nat) :
    ofBinary negative (numerator * powerOf 2 halvings) halvings =
      signedInt negative numerator := by
  rw [ofBinary]
  by_cases zero : numerator = 0
  · rw [zero, Nat.zero_mul, if_pos rfl]
  · rw [if_neg (Nat.mul_ne_zero zero (Nat.ne_of_gt (powerOf_pos halvings))), cancelHalvings_mul]
    rfl

theorem binaryExponent_one {numerator : Nat} (positive : numerator ≠ 0) :
    binaryExponent numerator 1 = Nat.log2 numerator := by
  have fits : 1 * powerOf 2 (Nat.log2 numerator) ≤ numerator := by
    rw [Nat.one_mul]
    exact Nat.log2_self_le positive
  have unit : Nat.log2 1 = 0 := by decide
  simp only [binaryExponent, unit, Int.natCast_zero, Int.sub_zero, Int.natCast_nonneg, if_true,
    Int.toNat_natCast, fits]

/-- An integer below 2^53 is not rounded. -/
theorem round_one (negative : Bool) {magnitude : Nat} (small : magnitude < powerOf 2 53) :
    round negative magnitude 1 = signedInt negative magnitude := by
  rw [round]
  by_cases zero : magnitude = 0
  · rw [if_pos zero, zero]
  · have bound : Nat.log2 magnitude < 53 := (Nat.log2_lt zero).mpr small
    rw [if_neg zero, binaryExponent_one zero]
    by_cases top : Nat.log2 magnitude = 52
    · have spacing : max ((Nat.log2 magnitude : Int) - 52) (-1074) = 0 := by omega
      have one : powerOf 2 0 = 1 := rfl
      have finite : ¬ powerOf 2 1024 ≤ magnitude := by
        apply Nat.not_le_of_lt
        exact Nat.lt_of_lt_of_le small (powerOf_mono (by omega))
      simp only [spacing, Int.le_refl, if_true, Int.toNat_zero, one, Nat.mul_one, roundQuotient_one,
        finite, if_false]
    · obtain ⟨halvings, positive, spacing⟩ : ∃ halvings : Nat, 0 < halvings ∧
          max ((Nat.log2 magnitude : Int) - 52) (-1074) = -(halvings : Int) :=
        ⟨52 - Nat.log2 magnitude, by omega, by omega⟩
      have fine : ¬ (0 : Int) ≤ -(halvings : Int) := by omega
      simp only [spacing, fine, if_false, Int.neg_neg, Int.toNat_natCast, roundQuotient_one]
      exact ofBinary_mul negative magnitude halvings

theorem ofInt_of_small {value : Int} (small : value.natAbs < powerOf 2 53) :
    ofInt value = int value := by
  rw [ofInt, round_one _ small, signedInt]
  by_cases negative : value < 0
  · rw [decide_eq_true negative, if_pos rfl, if_neg (by omega)]
    congr 1
    omega
  · rw [decide_eq_false negative, if_neg Bool.false_ne_true]
    congr 1
    omega

/-! ## Numbers that equal an integer -/

theorem exists_toInt?_of_isInteger {number : Number} (integer : number.isInteger = true) :
    ∃ value, number.toInt? = some value := by
  cases number with
  | int value => exact ⟨value, rfl⟩
  | negativeZero => exact ⟨0, rfl⟩
  | fraction | infinite | notANumber => contradiction

section Integer

variable {number : Number} {value : Int} (equals : number.toInt? = some value)

include equals in
theorem isInteger_of_toInt? : number.isInteger = true := by
  cases number with
  | int | negativeZero => rfl
  | fraction | infinite | notANumber => contradiction

include equals in
theorem ratio?_of_toInt? : number.ratio? = some (value, 0) := by
  cases number with
  | int => cases equals; rfl
  | negativeZero => cases equals; rfl
  | fraction | infinite | notANumber => contradiction

include equals in
theorem truncate?_of_toInt? : number.truncate? = some value := by
  rw [truncate?, ratio?_of_toInt? equals, Option.map_some]
  exact congrArg some (Int.tdiv_one value)

include equals in
theorem exceeds_of_toInt? (bound : Int) : number.exceeds bound = decide (bound < value) := by
  have unit : bound * (powerOf 2 0 : Nat) = bound := Int.mul_one bound
  rw [exceeds, ratio?_of_toInt? equals]
  · simp only [unit]
  · rintro negative rfl
    contradiction

include equals in
theorem isBelow_of_toInt? (bound : Int) : number.isBelow bound = decide (value < bound) := by
  have unit : bound * (powerOf 2 0 : Nat) = bound := Int.mul_one bound
  rw [isBelow, ratio?_of_toInt? equals]
  · simp only [unit]
  · rintro negative rfl
    contradiction

include equals in
theorem toInt?_double (small : (2 * value).natAbs < powerOf 2 53) :
    number.double.toInt? = some (2 * value) := by
  cases number with
  | int =>
      cases equals
      rw [double, ofInt_of_small small]
      rfl
  | negativeZero => cases equals; rfl
  | fraction | infinite | notANumber => contradiction

include equals in
theorem addInt_eq_ofInt (summand : Int) : number.addInt summand = ofInt (value + summand) := by
  have unit : summand * (powerOf 2 0 : Nat) = summand := Int.mul_one summand
  rw [addInt, ratio?_of_toInt? equals]
  simp only [unit]
  rfl

include equals in
theorem addInt_of_toInt? (summand : Int) (small : (value + summand).natAbs < powerOf 2 53) :
    number.addInt summand = int (value + summand) := by
  rw [addInt_eq_ofInt equals, ofInt_of_small small]

end Integer

/-! ## Integers from 2^53 on -/

/-- A number is at least 2^53 away from zero, on the side of a sign. -/
inductive Far : Bool → Number → Prop
  | infinite (negative : Bool) : Far negative (.infinite negative)
  | above {value : Int} (large : powerOf 2 53 ≤ value) : Far false (.int value)
  | below {value : Int} (large : value ≤ -powerOf 2 53) : Far true (.int value)

theorem exceeds_of_le {number : Number} {bound larger : Int} (more : bound ≤ larger)
    (exceeds : number.exceeds larger = true) : number.exceeds bound = true := by
  have scaled (halvings : Nat) : bound * powerOf 2 halvings ≤ larger * powerOf 2 halvings :=
    Int.mul_le_mul_of_nonneg_right more (Int.natCast_nonneg _)
  cases number with
  | infinite | notANumber => exact exceeds
  | int | fraction | negativeZero =>
      simp only [Number.exceeds, ratio?, decide_eq_true_eq] at exceeds ⊢
      exact Int.lt_of_le_of_lt (scaled _) exceeds

theorem div_le_roundQuotient (numerator denominator : Nat) :
    numerator / denominator ≤ roundQuotient numerator denominator := by
  simp only [roundQuotient]
  split
  · exact Nat.le_refl _
  · split
    · exact Nat.le_succ _
    · split
      · exact Nat.le_refl _
      · exact Nat.le_succ _

theorem far_signedInt (negative : Bool) {magnitude : Nat} (large : powerOf 2 53 ≤ magnitude) :
    Far negative (signedInt negative magnitude) := by
  have positive := powerOf_pos 53
  cases negative with
  | false => exact .above (by omega)
  | true =>
      rw [signedInt, if_pos rfl, if_neg (by omega)]
      exact .below (by omega)

/-- Rounding brings no integer back below 2^53. -/
theorem far_round (negative : Bool) {magnitude : Nat} (large : powerOf 2 53 ≤ magnitude) :
    Far negative (round negative magnitude 1) := by
  have positive : magnitude ≠ 0 := by
    have bound := powerOf_pos 53
    omega
  have top : 53 ≤ Nat.log2 magnitude := (Nat.le_log2 positive).mpr large
  obtain ⟨places, log⟩ : ∃ places, Nat.log2 magnitude = 52 + places :=
    ⟨Nat.log2 magnitude - 52, by omega⟩
  have spacing : max ((Nat.log2 magnitude : Int) - 52) (-1074) = (places : Int) := by omega
  have enough : powerOf 2 52 * powerOf 2 places ≤ magnitude := by
    have whole := Nat.log2_self_le positive
    rw [log, Nat.pow_add] at whole
    exact whole
  rw [round, if_neg positive, binaryExponent_one positive]
  simp only [spacing, Int.natCast_nonneg, if_true, Int.toNat_natCast, Nat.one_mul]
  split
  · exact .infinite negative
  · apply far_signedInt
    calc
      powerOf 2 53 = powerOf 2 52 * powerOf 2 1 := rfl
      _ ≤ powerOf 2 52 * powerOf 2 places := Nat.mul_le_mul_left _ (powerOf_mono (by omega))
      _ ≤ magnitude / powerOf 2 places * powerOf 2 places :=
        Nat.mul_le_mul_right _ ((Nat.le_div_iff_mul_le (powerOf_pos places)).mpr enough)
      _ ≤ roundQuotient magnitude (powerOf 2 places) * powerOf 2 places :=
        Nat.mul_le_mul_right _ (div_le_roundQuotient _ _)

theorem far_ofInt {value : Int} (large : powerOf 2 53 ≤ value.natAbs) :
    Far (decide (value < 0)) (ofInt value) := far_round _ large

theorem far_double {number : Number} {value : Int} (equals : number.toInt? = some value)
    (large : powerOf 2 53 ≤ (2 * value).natAbs) : Far (decide (value < 0)) number.double := by
  have side : decide (value < 0) = decide (2 * value < 0) := by
    rw [decide_eq_decide]
    omega
  cases number with
  | int =>
      cases equals
      rw [side, double]
      exact far_ofInt large
  | negativeZero =>
      cases equals
      exact absurd large (Nat.not_le_of_lt (powerOf_pos 53))
  | fraction | infinite | notANumber => contradiction

namespace Far

variable {number : Number}

theorem exceeds_eq_true {bound : Int} (far : Far false number) (small : bound < powerOf 2 53) :
    number.exceeds bound = true := by
  cases far with
  | infinite => rfl
  | above large =>
      rw [exceeds_of_toInt? rfl, decide_eq_true_eq]
      omega

theorem addInt (far : Far false number) {summand : Int} (more : 0 ≤ summand) :
    Far false (number.addInt summand) := by
  cases far with
  | infinite => exact .infinite false
  | @above value large =>
      have sum := @far_ofInt (value + summand) (by omega)
      rw [addInt_eq_ofInt rfl]
      rwa [decide_eq_false (by omega)] at sum

/-- A small summand brings a number that is far below zero at most that much closer to zero. -/
theorem addInt_below (far : Far true number) {summand : Nat} (few : summand < powerOf 2 53) :
    number.addInt summand = .infinite true ∨
      ∃ value : Int, number.addInt summand = .int value ∧ value ≤ summand - powerOf 2 53 := by
  cases far with
  | infinite => exact .inl rfl
  | @below value large =>
      rw [addInt_eq_ofInt rfl]
      obtain near | away := Nat.lt_or_ge (value + summand).natAbs (powerOf 2 53)
      · rw [ofInt_of_small near]
        exact .inr ⟨_, rfl, by omega⟩
      · have sum := far_ofInt away
        rw [decide_eq_true (by omega)] at sum
        generalize ofInt (value + summand) = total at sum
        cases sum with
        | infinite => exact .inl rfl
        | below far => exact .inr ⟨_, rfl, by omega⟩

end Far

/-- A sum of integers above -2^53 exceeds no other bounds than the exact sum. -/
theorem exceeds_addInt {number : Number} {value summand : Int} (equals : number.toInt? = some value)
    (above : -(powerOf 2 53 : Nat) < value + summand) {bound : Nat} (small : bound < powerOf 2 53) :
    (number.addInt summand).exceeds bound = decide ((bound : Int) < value + summand) := by
  rw [addInt_eq_ofInt equals]
  obtain near | large := Nat.lt_or_ge (value + summand).natAbs (powerOf 2 53)
  · rw [ofInt_of_small near, exceeds_of_toInt? rfl]
  · have far := far_ofInt large
    rw [decide_eq_false (by omega)] at far
    rw [far.exceeds_eq_true (by omega), eq_comm, decide_eq_true_eq]
    omega

/-- The sum of twice an integer and a small one exceeds no other bounds than the exact sum. -/
theorem exceeds_addInt_double {number : Number} {value : Int} (equals : number.toInt? = some value)
    {summand : Nat} (few : summand < powerOf 2 52) {bound : Nat} (small : bound < powerOf 2 53) :
    (number.double.addInt summand).exceeds bound =
      decide ((bound : Int) < 2 * value + summand) := by
  have half : powerOf 2 53 = 2 * powerOf 2 52 := rfl
  obtain near | large := Nat.lt_or_ge (2 * value).natAbs (powerOf 2 53)
  · exact exceeds_addInt (toInt?_double equals near) (by omega) small
  · have far := far_double equals large
    obtain negative | positive := Int.lt_or_le value 0
    · rw [decide_eq_true negative] at far
      have behind : ¬ (bound : Int) < 2 * value + summand := by omega
      rw [decide_eq_false behind]
      obtain sum | ⟨total, sum, below⟩ := far.addInt_below (by omega : summand < powerOf 2 53)
      · rw [sum]
        rfl
      · rw [sum, exceeds_of_toInt? rfl, decide_eq_false_iff_not]
        omega
    · rw [decide_eq_false (by omega)] at far
      rw [(far.addInt (Int.natCast_nonneg summand)).exceeds_eq_true (by omega), eq_comm,
        decide_eq_true_eq]
      omega

end Rollout.Number
